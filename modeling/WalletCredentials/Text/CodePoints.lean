import WalletCredentials.Encoding.Hex
import WalletCredentials.Text.Split

/-!
# Tables of code points

A property of characters is a list of runs of code points, and a way to replace
characters is a list of runs with what comes in their place. Both are written as words in
hexadecimal numbers: `300-36F` is a run, `1E9E=DF` and `132=69+6A` replace a character by
one and by two others, and `100-12E/2=101` replaces every other character of a run by the
one at the same distance from the first.
-/

namespace WalletCredentials.Text

/-- The number that hexadecimal digits write. Anything else counts as zero. -/
def hexNumber (cs : List Char) : Nat :=
  cs.foldl (fun n c => 16 * n + (Hex.digitValue? c).getD 0) 0

/-- The words of a text, which blanks and line ends stand between. -/
def words (text : String) : List (List Char) :=
  (pieces ' ' (text.toList.map fun c => if c = '\n' then ' ' else c)).filter (!·.isEmpty)

/-- A run of code points, with its ends. -/
structure Run where
  first : Nat
  last : Nat
  deriving DecidableEq, Repr

/-- Tells whether a character is in a run. -/
def Run.has (r : Run) (c : Char) : Bool := r.first ≤ c.toNat && c.toNat ≤ r.last

/-- The run that a word writes. -/
def Run.ofWord (word : List Char) : Run :=
  match cut '-' word with
  | (first, some last) => ⟨hexNumber first, hexNumber last⟩
  | (only, none) => ⟨hexNumber only, hexNumber only⟩

/-- The runs that the words of a text write. -/
def runs (text : String) : List Run := (words text).map Run.ofWord

/-- Tells whether a character is in one of some runs. -/
def isIn (rs : List Run) (c : Char) : Bool := rs.any fun r => r.has c

/-- What comes in the place of the characters of a run. -/
structure Replacement where
  run : Run
  /-- The distance of the characters that are replaced. -/
  step : Nat
  /-- What the first character is replaced by. -/
  targets : List Nat
  deriving DecidableEq, Repr

/-- The replacement that a word writes. -/
def Replacement.ofWord (word : List Char) : Replacement :=
  let (source, targets) := cut '=' word
  let (run, step) := cut '/' source
  { run := Run.ofWord run
    step := (step.map hexNumber).getD 1
    targets := (pieces '+' (targets.getD [])).map hexNumber }

/-- The replacements that the words of a text write. -/
def replacements (text : String) : List Replacement := (words text).map Replacement.ofWord

/-- What a character is replaced by, if it is one of those that are. -/
def Replacement.apply? (r : Replacement) (c : Char) : Option (List Char) :=
  let distance := c.toNat - r.run.first
  if r.run.has c && distance % r.step = 0 then
    some (r.targets.map fun t => Char.ofNat (t + distance))
  else none

/-- What a character is replaced by in one of some replacements. -/
def replace? (rs : List Replacement) (c : Char) : Option (List Char) :=
  rs.findSome? fun r => r.apply? c

end WalletCredentials.Text
