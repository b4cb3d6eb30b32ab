import WalletCredentials.Bytes

/-!
# The curve of Ed25519

Points of the twisted Edwards curve `-x² + y² = 1 + d x² y²` over the integers
modulo `2²⁵⁵ - 19`, in coordinates `x = X/Z`, `y = Y/Z`, `xy = T/Z`. Field elements
are natural numbers below the modulus.
-/

namespace WalletCredentials.Edwards

/-- The modulus of the field. -/
def modulus : Nat := Nat.pow 2 255 - 19

/-- The order of the base point. -/
def order : Nat := Nat.pow 2 252 + 27742317777372353535851937790883648493

/-- The product of two field elements. -/
def mul (a b : Nat) : Nat := a * b % modulus

/-- The sum of two field elements. -/
def add (a b : Nat) : Nat := (a + b) % modulus

/-- The difference of two field elements. -/
def sub (a b : Nat) : Nat := (a + modulus - b) % modulus

/-- The lowest `count` bits of a number, the highest first. -/
def bits : (count : Nat) → Nat → List Bool
  | 0, _ => []
  | count + 1, n => n.testBit count :: bits count n

/-- A power of a field element whose exponent has less than 256 bits. -/
def pow (base exponent : Nat) : Nat :=
  (bits 256 exponent).foldl
    (fun r bit => if bit then mul (mul r r) base else mul r r) 1

/-- The inverse of a field element. -/
def inverse (a : Nat) : Nat := pow a (modulus - 2)

/-- The constant of the curve. -/
def d : Nat := 37095705934669439343138083508754565189542113879843219016388785533085940283555

/-- A square root of minus one. -/
def sqrtMinusOne : Nat :=
  19681161376707505956807079304988542015446066515923890162744021073123829784752

/-- A point of the curve. -/
structure Point where
  (x y z t : Nat)
  deriving DecidableEq, Repr

/-- The neutral point. -/
def Point.zero : Point := ⟨0, 1, 1, 0⟩

/-- The sum of two points. -/
def Point.sum (p q : Point) : Point :=
  let a := mul (sub p.y p.x) (sub q.y q.x)
  let b := mul (add p.y p.x) (add q.y q.x)
  let c := mul (mul p.t q.t) (2 * d % modulus)
  let e := mul (mul p.z q.z) 2
  let f := sub b a
  let g := sub e c
  let h := add e c
  let i := add b a
  ⟨mul f g, mul h i, mul g h, mul f i⟩

/-- The opposite point. -/
def Point.neg (p : Point) : Point := ⟨sub 0 p.x, p.y, p.z, sub 0 p.t⟩

/-- A multiple of a point by a number of less than 256 bits. -/
def Point.times (n : Nat) (p : Point) : Point :=
  (bits 256 n).foldl
    (fun r bit => let r₂ := r.sum r; if bit then r₂.sum p else r₂) .zero

/-- The base point. -/
def Point.base : Point :=
  let x := 15112221349535400772501151409588531511454012693041857206046113283949847762202
  let y := 46316835694926478169428394003475163141307993866256225615783033603165251855960
  ⟨x, y, 1, mul x y⟩

/-- The 32 bytes of a point: its second coordinate and the parity of the first. -/
def Point.encode (p : Point) : List UInt8 :=
  let i := inverse p.z
  let x := mul p.x i
  let y := mul p.y i
  Bytes.ofNatLittle 32 (y + Nat.pow 2 255 * (x % 2))

/-- The first coordinate with a given parity that belongs to a second coordinate. A
zero stays zero for both parities. -/
def recoverX? (y : Nat) (odd : Bool) : Option Nat :=
  let yy := mul y y
  let u := sub yy 1
  let v := add (mul d yy) 1
  let v₃ := mul (mul v v) v
  let v₇ := mul (mul v₃ v₃) v
  let root := mul (mul u v₃) (pow (mul u v₇) ((modulus - 5) / 8))
  let check := mul v (mul root root)
  let x? :=
    if check = u then some root
    else if check = sub 0 u then some (mul root sqrtMinusOne)
    else none
  x?.map fun x => if (x % 2 = 1) = odd then x else sub 0 x

/-- The point of 32 bytes. The second coordinate counts modulo the field. -/
def Point.decode? (bytes : List UInt8) : Option Point :=
  let n := Bytes.toNatLittle bytes
  let y := n % Nat.pow 2 255 % modulus
  (recoverX? y (n.testBit 255)).map fun x => ⟨x, y, 1, mul x y⟩

theorem Point.length_encode (p : Point) : p.encode.length = 32 := by
  simp [Point.encode]

end WalletCredentials.Edwards
