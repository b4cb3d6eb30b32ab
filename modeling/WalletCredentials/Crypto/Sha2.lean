import WalletCredentials.Bytes

/-!
# SHA-2

The two digests share one construction over words of 32 and 64 bits: the message
is padded to whole blocks, and each block is mixed into a state of eight words. A
window of sixteen words slides over the words of the block and those derived from
them, so that a round sees its word at the front of the window.
-/

namespace WalletCredentials.Sha2

/-- The eight words of a state. -/
structure State (w : Type) where
  (a b c d e f g h : w)

/-- What distinguishes the digests of the family. -/
structure Variant (w : Type) where
  /-- The bytes of a word; a block has sixteen words. -/
  wordBytes : Nat
  /-- The bytes of the length at the end of the padded message. -/
  lengthBytes : Nat
  initial : State w
  /-- One constant for each round. -/
  constants : List w
  ofNat : Nat → w
  toNat : w → Nat
  /-- The mixing functions of the rounds and of the window. -/
  (sum0 sum1 sigma0 sigma1 : w → w)

variable {w : Type} [Add w] [XorOp w] [AndOp w] [Complement w]

/-- One round, with the constant and the word of the round. -/
def round (v : Variant w) (s : State w) (k x : w) : State w :=
  let choice := (s.e &&& s.f) ^^^ (~~~s.e &&& s.g)
  let majority := (s.a &&& s.b) ^^^ (s.a &&& s.c) ^^^ (s.b &&& s.c)
  let t₁ := s.h + v.sum1 s.e + choice + k + x
  let t₂ := v.sum0 s.a + majority
  ⟨t₁ + t₂, s.a, s.b, s.c, s.d + t₁, s.e, s.f, s.g⟩

/-- Moves the window on by one word. -/
def slide (v : Variant w) (window : List w) : List w :=
  let at_ (i : Nat) : w := window.getD i (v.ofNat 0)
  window.drop 1 ++ [v.sigma1 (at_ 14) + at_ 9 + v.sigma0 (at_ 1) + at_ 0]

/-- The rounds of a block, one for each constant. -/
def rounds (v : Variant w) : List w → List w → State w → State w
  | [], _, s => s
  | k :: ks, window, s =>
      rounds v ks (slide v window) (round v s k (window.getD 0 (v.ofNat 0)))

/-- The sum of two states, word by word. -/
def State.sum (s t : State w) : State w :=
  ⟨s.a + t.a, s.b + t.b, s.c + t.c, s.d + t.d, s.e + t.e, s.f + t.f, s.g + t.g, s.h + t.h⟩

/-- The first `count` words of bytes. -/
def wordsOf (v : Variant w) : (count : Nat) → List UInt8 → List w
  | 0, _ => []
  | count + 1, bytes =>
      v.ofNat (Bytes.toNatBig (bytes.take v.wordBytes)) ::
        wordsOf v count (bytes.drop v.wordBytes)

/-- Mixes the first `count` blocks of bytes into a state. -/
def absorb (v : Variant w) : (count : Nat) → List UInt8 → State w → State w
  | 0, _, s => s
  | count + 1, bytes, s =>
      absorb v count (bytes.drop (16 * v.wordBytes))
        (s.sum (rounds v v.constants (wordsOf v 16 bytes) s))

/-- The message with a one bit, zeros up to a whole number of blocks, and its length in bits. -/
def pad (v : Variant w) (message : List UInt8) : List UInt8 :=
  let block := 16 * v.wordBytes
  let used := message.length + 1 + v.lengthBytes
  message ++ 0x80 :: List.replicate ((block - used % block) % block) 0 ++
    Bytes.ofNatBig v.lengthBytes (8 * message.length)

/-- The bytes of a word. -/
def wordToBytes (v : Variant w) (x : w) : List UInt8 := Bytes.ofNatBig v.wordBytes (v.toNat x)

/-- The bytes of a state. -/
def State.toBytes (v : Variant w) (s : State w) : List UInt8 :=
  [s.a, s.b, s.c, s.d, s.e, s.f, s.g, s.h].flatMap (wordToBytes v)

/-- The digest of a message. -/
def digest (v : Variant w) (message : List UInt8) : List UInt8 :=
  let padded := pad v message
  (absorb v (padded.length / (16 * v.wordBytes)) padded v.initial).toBytes v

omit [Add w] [XorOp w] [AndOp w] [Complement w] in
theorem State.length_toBytes (v : Variant w) (s : State w) :
    (s.toBytes v).length = 8 * v.wordBytes := by
  simp [State.toBytes, wordToBytes]
  omega

/-- Every digest has eight words. -/
theorem length_digest (v : Variant w) (message : List UInt8) :
    (digest v message).length = 8 * v.wordBytes :=
  State.length_toBytes v _

/-- A word turned right by a number of bits. -/
def rotate32 (n : UInt32) (x : UInt32) : UInt32 := (x >>> n) ||| (x <<< (32 - n))

/-- A word turned right by a number of bits. -/
def rotate64 (n : UInt64) (x : UInt64) : UInt64 := (x >>> n) ||| (x <<< (64 - n))

/-- The starting words of SHA-256: the square roots of the first eight primes, in
their fractional parts. -/
def start256 : State UInt32 :=
  ⟨0x6a09e667, 0xbb67ae85, 0x3c6ef372, 0xa54ff53a, 0x510e527f, 0x9b05688c, 0x1f83d9ab,
    0x5be0cd19⟩

/-- The round constants of SHA-256: the cube roots of the first 64 primes, in their
fractional parts. -/
def constants256 : List UInt32 :=
  [0x428a2f98, 0x71374491, 0xb5c0fbcf, 0xe9b5dba5, 0x3956c25b, 0x59f111f1, 0x923f82a4, 0xab1c5ed5,
   0xd807aa98, 0x12835b01, 0x243185be, 0x550c7dc3, 0x72be5d74, 0x80deb1fe, 0x9bdc06a7, 0xc19bf174,
   0xe49b69c1, 0xefbe4786, 0x0fc19dc6, 0x240ca1cc, 0x2de92c6f, 0x4a7484aa, 0x5cb0a9dc, 0x76f988da,
   0x983e5152, 0xa831c66d, 0xb00327c8, 0xbf597fc7, 0xc6e00bf3, 0xd5a79147, 0x06ca6351, 0x14292967,
   0x27b70a85, 0x2e1b2138, 0x4d2c6dfc, 0x53380d13, 0x650a7354, 0x766a0abb, 0x81c2c92e, 0x92722c85,
   0xa2bfe8a1, 0xa81a664b, 0xc24b8b70, 0xc76c51a3, 0xd192e819, 0xd6990624, 0xf40e3585, 0x106aa070,
   0x19a4c116, 0x1e376c08, 0x2748774c, 0x34b0bcb5, 0x391c0cb3, 0x4ed8aa4a, 0x5b9cca4f, 0x682e6ff3,
   0x748f82ee, 0x78a5636f, 0x84c87814, 0x8cc70208, 0x90befffa, 0xa4506ceb, 0xbef9a3f7, 0xc67178f2]

/-- SHA-256. -/
def sha256 : Variant UInt32 where
  wordBytes := 4
  lengthBytes := 8
  initial := start256
  constants := constants256
  ofNat := UInt32.ofNat
  toNat := UInt32.toNat
  sum0 x := rotate32 2 x ^^^ rotate32 13 x ^^^ rotate32 22 x
  sum1 x := rotate32 6 x ^^^ rotate32 11 x ^^^ rotate32 25 x
  sigma0 x := rotate32 7 x ^^^ rotate32 18 x ^^^ (x >>> 3)
  sigma1 x := rotate32 17 x ^^^ rotate32 19 x ^^^ (x >>> 10)

/-- The starting words of SHA-512: the square roots of the first eight primes, in
their fractional parts. -/
def start512 : State UInt64 :=
  ⟨0x6a09e667f3bcc908, 0xbb67ae8584caa73b, 0x3c6ef372fe94f82b, 0xa54ff53a5f1d36f1,
    0x510e527fade682d1, 0x9b05688c2b3e6c1f, 0x1f83d9abfb41bd6b, 0x5be0cd19137e2179⟩

/-- The round constants of SHA-512: the cube roots of the first 80 primes, in their
fractional parts. -/
def constants512 : List UInt64 :=
  [0x428a2f98d728ae22, 0x7137449123ef65cd, 0xb5c0fbcfec4d3b2f, 0xe9b5dba58189dbbc,
   0x3956c25bf348b538, 0x59f111f1b605d019, 0x923f82a4af194f9b, 0xab1c5ed5da6d8118,
   0xd807aa98a3030242, 0x12835b0145706fbe, 0x243185be4ee4b28c, 0x550c7dc3d5ffb4e2,
   0x72be5d74f27b896f, 0x80deb1fe3b1696b1, 0x9bdc06a725c71235, 0xc19bf174cf692694,
   0xe49b69c19ef14ad2, 0xefbe4786384f25e3, 0x0fc19dc68b8cd5b5, 0x240ca1cc77ac9c65,
   0x2de92c6f592b0275, 0x4a7484aa6ea6e483, 0x5cb0a9dcbd41fbd4, 0x76f988da831153b5,
   0x983e5152ee66dfab, 0xa831c66d2db43210, 0xb00327c898fb213f, 0xbf597fc7beef0ee4,
   0xc6e00bf33da88fc2, 0xd5a79147930aa725, 0x06ca6351e003826f, 0x142929670a0e6e70,
   0x27b70a8546d22ffc, 0x2e1b21385c26c926, 0x4d2c6dfc5ac42aed, 0x53380d139d95b3df,
   0x650a73548baf63de, 0x766a0abb3c77b2a8, 0x81c2c92e47edaee6, 0x92722c851482353b,
   0xa2bfe8a14cf10364, 0xa81a664bbc423001, 0xc24b8b70d0f89791, 0xc76c51a30654be30,
   0xd192e819d6ef5218, 0xd69906245565a910, 0xf40e35855771202a, 0x106aa07032bbd1b8,
   0x19a4c116b8d2d0c8, 0x1e376c085141ab53, 0x2748774cdf8eeb99, 0x34b0bcb5e19b48a8,
   0x391c0cb3c5c95a63, 0x4ed8aa4ae3418acb, 0x5b9cca4f7763e373, 0x682e6ff3d6b2b8a3,
   0x748f82ee5defb2fc, 0x78a5636f43172f60, 0x84c87814a1f0ab72, 0x8cc702081a6439ec,
   0x90befffa23631e28, 0xa4506cebde82bde9, 0xbef9a3f7b2c67915, 0xc67178f2e372532b,
   0xca273eceea26619c, 0xd186b8c721c0c207, 0xeada7dd6cde0eb1e, 0xf57d4f7fee6ed178,
   0x06f067aa72176fba, 0x0a637dc5a2c898a6, 0x113f9804bef90dae, 0x1b710b35131c471b,
   0x28db77f523047d84, 0x32caab7b40c72493, 0x3c9ebe0a15c9bebc, 0x431d67c49c100d4c,
   0x4cc5d4becb3e42b6, 0x597f299cfc657e2a, 0x5fcb6fab3ad6faec, 0x6c44198c4a475817]

/-- SHA-512. -/
def sha512 : Variant UInt64 where
  wordBytes := 8
  lengthBytes := 16
  initial := start512
  constants := constants512
  ofNat := UInt64.ofNat
  toNat := UInt64.toNat
  sum0 x := rotate64 28 x ^^^ rotate64 34 x ^^^ rotate64 39 x
  sum1 x := rotate64 14 x ^^^ rotate64 18 x ^^^ rotate64 41 x
  sigma0 x := rotate64 1 x ^^^ rotate64 8 x ^^^ (x >>> 7)
  sigma1 x := rotate64 19 x ^^^ rotate64 61 x ^^^ (x >>> 6)

end WalletCredentials.Sha2
