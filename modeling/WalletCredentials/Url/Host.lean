import WalletCredentials.Encoding.Percent
import WalletCredentials.Text.Digits
import WalletCredentials.Text.Quoted
import WalletCredentials.Url.Domain
import WalletCredentials.Url.Fault

/-!
# Hosts

The host of an address is a name, an address of four bytes, or one of eight groups of
sixteen bits. An address of four bytes may be written with fewer numbers, the last of
which stands for several bytes, and in octal or hexadecimal digits.
-/

namespace WalletCredentials

/-- The host of an address. -/
inductive Host
  | name (text : String)
  /-- An address of four bytes as a number. -/
  | ipv4 (address : Nat)
  /-- An address of eight groups. -/
  | ipv6 (groups : List Nat)
  deriving DecidableEq, Repr

namespace Host

/-- The number that digits write in a base. -/
def numberIn (base : Nat) (digits : List Char) : Option Nat :=
  digits.foldlM (fun n c => do
    let d ← Hex.digitValue? c
    if d < base then some (base * n + d) else none) 0

/-- The number of a part of an address of four bytes. -/
def part? : List Char → Option Nat
  | [] => none
  | '0' :: 'x' :: digits => numberIn 16 digits
  | '0' :: 'X' :: digits => numberIn 16 digits
  | ['0'] => some 0
  | '0' :: digits => numberIn 8 digits
  | digits => numberIn 10 digits

/-- The parts of a name, without the empty one after a full stop at its end. -/
def parts (name : List Char) : List (List Char) :=
  match (Text.pieces '.' name).reverse with
  | [] :: rest => rest.reverse
  | all => all.reverse

/-- Tells whether the last part of a name is a number, so that all of it has to be an
address. -/
def endsInNumber (name : List Char) : Bool :=
  match (parts name).getLast? with
  | some last => (!last.isEmpty && last.all Text.isDigit) || (part? last).isSome
  | none => false

/-- The address that parts stand for: all but the last stand for a byte each. -/
def address? (numbers : List Nat) : Option Nat :=
  match numbers.reverse with
  | [] => none
  | last :: bytes =>
      let count := bytes.length
      if 3 < count ∨ bytes.any (255 < ·) ∨ Nat.pow 256 (4 - count) ≤ last then none
      else some (bytes.reverse.foldl (fun n b => 256 * n + b) 0 * Nat.pow 256 (4 - count) + last)

/-- Reads an address of four bytes. -/
def readIpv4 (name : List Char) : Except UrlFault Host :=
  match ((parts name).mapM part?).bind address? with
  | some n => .ok (.ipv4 n)
  | none => .error .ipv4

/-- The number of a byte in decimal digits without zeros in front. -/
def byte? (digits : List Char) : Option Nat :=
  match digits with
  | [] => none
  | ['0'] => some 0
  | '0' :: _ => none
  | digits =>
      if digits.all Text.isDigit ∧ Text.number digits ≤ 255 then some (Text.number digits) else none

/-- The two groups that an address of four bytes stands for. -/
def embedded? (cs : List Char) : Option (List Nat) :=
  match (Text.pieces '.' cs).mapM byte? with
  | some [a, b, c, d] => some [256 * a + b, 256 * c + d]
  | _ => none

/-- Reads the groups that are left of an address of eight groups. The groups that have
been read are in `groups`, and `gap` counts those up to the gap, which starts with a
group of its own. -/
def readGroups : (left : Nat) → (gap : Option Nat) → (groups : List Nat) → List Char →
    Option (Option Nat × List Nat)
  | _, gap, groups, [] => some (gap, groups)
  | 0, _, _, _ :: _ => none
  | left + 1, gap, groups, c :: cs =>
      if c = ':' then
        if gap.isSome then none
        else readGroups left (some (groups.length + 1)) (groups ++ [0]) cs
      else
        let digits := ((c :: cs).take 4).takeWhile fun c => (Hex.digitValue? c).isSome
        match (c :: cs).drop digits.length with
        | [] => (numberIn 16 digits).bind fun n => readGroups left gap (groups ++ [n]) []
        | ':' :: d :: rest =>
            (numberIn 16 digits).bind fun n => readGroups left gap (groups ++ [n]) (d :: rest)
        | '.' :: _ =>
            if digits.isEmpty ∨ 6 < groups.length then none
            else (embedded? (c :: cs)).map fun pair => (gap, groups ++ pair)
        | _ => none

/-- Reads an address of eight groups, between its brackets. -/
def readIpv6 (cs : List Char) : Except UrlFault Host :=
  let read : Option (Option Nat × List Nat) :=
    match cs with
    | ':' :: ':' :: rest => readGroups 7 (some 1) [0] rest
    | ':' :: _ => none
    | [] => none
    | [_] => none
    | cs => readGroups 8 none [] cs
  match read with
  | some (some gap, groups) =>
      .ok (.ipv6 (groups.take gap ++ List.replicate (8 - groups.length) 0 ++ groups.drop gap))
  | some (none, groups) => if groups.length = 8 then .ok (.ipv6 groups) else .error .ipv6
  | none => .error .ipv6

/-- The characters between brackets. -/
def bracketed? (cs : List Char) : Option (Except UrlFault (List Char)) :=
  match cs with
  | '[' :: rest => some (if rest.getLast? = some ']' then .ok rest.dropLast else .error .ipv6)
  | _ => none

/-- Reads the host of an address of the web. -/
def read (cs : List Char) : Except UrlFault Host :=
  match bracketed? cs with
  | some inner => do readIpv6 (← inner)
  | none =>
      let bytes := Percent.decode (Utf8.encodeChars cs)
      let decoded := Utf8.decodeChars bytes
      if Utf8.encodeChars decoded ≠ bytes then .error .domain
      else match Domain.toAscii decoded with
        | none => .error .domain
        | some [] => .error .emptyHost
        | some ascii =>
            if endsInNumber ascii then readIpv4 ascii else .ok (.name (String.ofList ascii))

/-- The characters that may not stand in a host of another scheme. -/
def reserved : List Char := "\x00\t\n\r #/:<>?@[\\]^|".toList

/-- Reads the host of an address of another scheme. -/
def readOpaque (cs : List Char) : Except UrlFault Host :=
  match bracketed? cs with
  | some inner => do readIpv6 (← inner)
  | none =>
      if cs.any reserved.contains then .error .hostCharacter
      else .ok (.name (String.ofList (Percent.encode [] cs)))

/-- The longest run of zeros in a list, as its start and its length. -/
def longestZeros (groups : List Nat) : Nat × Nat :=
  (List.range groups.length).foldl (fun best i =>
    let run := ((groups.drop i).takeWhile (· = 0)).length
    if best.2 < run then (i, run) else best) (0, 0)

/-- The text of groups, with colons between them. -/
def groupsText (groups : List Nat) : String :=
  ":".intercalate (groups.map fun n => String.ofList (Text.hexDigits n))

/-- The text of a host. -/
def text : Host → String
  | .name s => s
  | .ipv4 n =>
      ".".intercalate ([n / 16777216, n / 65536 % 256, n / 256 % 256, n % 256].map toString)
  | .ipv6 groups =>
      let (start, length) := longestZeros groups
      "[" ++ (if length < 2 then groupsText groups
        else groupsText (groups.take start) ++ "::" ++ groupsText (groups.drop (start + length)))
        ++ "]"

end Host

end WalletCredentials
