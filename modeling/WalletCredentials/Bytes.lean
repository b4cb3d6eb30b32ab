/-!
# Numbers as bytes

Fixed-width numbers in the two byte orders. Signatures keep their numbers with
the least significant byte first, digests with the most significant byte first.
-/

namespace WalletCredentials.Bytes

/-- The number whose least significant byte comes first. -/
def toNatLittle : List UInt8 → Nat
  | [] => 0
  | b :: rest => b.toNat + 256 * toNatLittle rest

/-- The lowest `width` bytes of a number, least significant byte first. -/
def ofNatLittle : (width : Nat) → Nat → List UInt8
  | 0, _ => []
  | width + 1, n => UInt8.ofNat n :: ofNatLittle width (n / 256)

/-- The number whose most significant byte comes first. -/
def toNatBig (bytes : List UInt8) : Nat :=
  bytes.foldl (fun n b => 256 * n + b.toNat) 0

/-- The lowest `width` bytes of a number, most significant byte first. -/
def ofNatBig (width n : Nat) : List UInt8 :=
  (ofNatLittle width n).reverse

@[simp] theorem length_ofNatLittle (width n : Nat) : (ofNatLittle width n).length = width := by
  induction width generalizing n with
  | zero => rfl
  | succ width ih => simp [ofNatLittle, ih]

@[simp] theorem length_ofNatBig (width n : Nat) : (ofNatBig width n).length = width := by
  simp [ofNatBig]

end WalletCredentials.Bytes
