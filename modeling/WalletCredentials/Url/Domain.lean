import WalletCredentials.Url.Label

/-!
# Names of hosts

The name of a host is compared letter by letter, so that it is brought into one form: its
characters are folded and composed, and its labels are written in ASCII. A name that is
partly written from right to left has labels whose characters keep together.
-/

namespace WalletCredentials.Domain

/-- The labels of a name. -/
def labels? (name : List Char) : Option (List Label) := do
  let folded ← Folding.foldAll? name
  (Text.pieces '.' (Text.composed folded)).mapM Label.read?

/-- Tells whether labels may stand in one name, with regard to the directions in which they
are written. -/
def areDirected (labels : List Label) : Bool :=
  labels.all (fun label => !label.wide.any Text.isRightToLeft) ||
    labels.all fun label => Label.isDirected label.wide

/-- The ASCII form of the name of a host, if it is one. -/
def toAscii (name : List Char) : Option (List Char) := do
  let labels ← labels? name
  if areDirected labels then some (['.'].intercalate (labels.map Label.ascii)) else none

end WalletCredentials.Domain
