import WalletCredentials.Url.Basic
import WalletCredentials.Url.Path

/-!
# Reading addresses

An address is read as browsers read it: blanks at both ends and line breaks anywhere
count for nothing, the schemes of the web take a backslash for a slash and any number
of them before the host, and what cannot stand in a part is escaped.
-/

namespace WalletCredentials.Url

/-- The port of a scheme of the web. -/
def defaultPort? : String → Option Nat
  | "http" => some 80
  | "https" => some 443
  | "ws" => some 80
  | "wss" => some 443
  | "ftp" => some 21
  | _ => none

/-- Tells whether an address with a scheme always has a host or a file. -/
def isSpecial (scheme : String) : Bool := scheme = "file" || (defaultPort? scheme).isSome

/-- Tells whether a character may stand in a scheme. -/
def isSchemeChar (c : Char) : Bool :=
  c.isAlpha || Text.isDigit c || c = '+' || c = '-' || c = '.'

/-- Reads the scheme of an address, and finds what follows its colon. -/
def readScheme (cs : List Char) : Except UrlFault (String × List Char) :=
  match Text.cut ':' cs with
  | (c :: name, some rest) =>
      if c.isAlpha ∧ name.all isSchemeChar then
        .ok (String.ofList ((c :: name).map Char.toLower), rest)
      else .error .relative
  | _ => .error .relative

/-- The characters that are escaped in the name of a user or in a password. -/
def userReserved : List Char := Path.reserved ++ "/:;=@[\\]^|".toList

/-- The text of the name of a user and a password. -/
def userinfoText (cs : List Char) : String :=
  let (name, password) := Text.cut ':' cs
  let escaped := Percent.encode userReserved
  String.ofList (match password with
    | some (c :: rest) => escaped name ++ ':' :: escaped (c :: rest)
    | _ => escaped name)

/-- The characters before the colon in front of a port, and those from it on. A colon
between brackets is one of the host. -/
def cutPort (isInside : Bool) : List Char → List Char × List Char
  | [] => ([], [])
  | c :: rest =>
      if c = ':' ∧ !isInside then ([], c :: rest)
      else
        let (host, port) := cutPort (c = '[' || (isInside && c ≠ ']')) rest
        (c :: host, port)

/-- Reads a port after its colon, and finds what follows the digits. -/
def readPort (scheme : String) (cs : List Char) : Except UrlFault (Option Nat × List Char) :=
  let digits := cs.takeWhile Text.isDigit
  let rest := cs.dropWhile Text.isDigit
  let port := Text.number digits
  if 65535 < port ∨ (rest ≠ [] ∧ rest.head? ≠ some '\\') then .error .port
  else .ok (if digits.isEmpty ∨ defaultPort? scheme = some port then none else some port, rest)

/-- Reads a host and a port, and finds what follows them. -/
def readHostAndPort (scheme userinfo : String) (cs : List Char) :
    Except UrlFault (Authority × List Char) := do
  let (name, rest) := cutPort false cs
  let host ← if isSpecial scheme then
      if name.isEmpty then throw .emptyHost else some <$> Host.read name
    else if name.isEmpty then
      if rest.isEmpty && userinfo.isEmpty then pure none else throw .emptyHost
    else some <$> Host.readOpaque name
  match rest with
  | [] => return (⟨userinfo, host, none⟩, [])
  | _ :: port =>
      let (port, rest) ← readPort scheme port
      return (⟨userinfo, host, port⟩, rest)

/-- Reads the authority of an address, and finds what follows it. `isLast` tells that
the address ends with it. -/
def readAuthority (scheme : String) (isLast : Bool) (cs : List Char) :
    Except UrlFault (Authority × List Char) :=
  match Text.cutLast '@' cs with
  | (none, cs) => readHostAndPort scheme "" cs
  | (some [], []) => if isLast then readHostAndPort scheme "" [] else .error .emptyHost
  | (some userinfo, cs) => readHostAndPort scheme (userinfoText userinfo) cs

/-- The characters before the first slash, and those from it on. -/
def cutPath (cs : List Char) : List Char × List Char :=
  (cs.takeWhile (· ≠ '/'), cs.dropWhile (· ≠ '/'))

/-- A path with a slash at its start, where it has to have one. -/
def rooted (always : Bool) (path : List Char) : List Char :=
  match path with
  | [] => if always then ['/'] else []
  | '/' :: _ => path
  | _ => '/' :: path

/-- The text of a path, where it is not empty. -/
def pathText (cs : List Char) : String := if cs.isEmpty then "" else Path.read cs

/-- A host and the text of a path of a file, read from behind its first slash. The text
starts with one slash, and a drive is one of this computer. -/
def filePlace (host : Option Host) (cs : List Char) : Authority × String :=
  let segments := Path.fileSegments cs
  let isLocal := (segments.head?.map Path.isDrive).getD false
  let path := '/' :: (Path.text segments).toList.dropWhile (· = '/')
  (⟨"", if isLocal then none else host, none⟩, String.ofList path)

/-- Reads what follows the scheme of a file. Where no other computer is named, the slash
after its place is one of the path. -/
def readFile (cs : List Char) : Except UrlFault (Authority × String) :=
  match cs with
  | '/' :: '/' :: rest =>
      let (name, path) := cutPath rest
      if name.isEmpty ∨ Path.isDrive name then .ok (filePlace none rest)
      else (Host.read name).map fun host =>
        if host = .name "localhost" then filePlace none path
        else filePlace (some host) (path.drop 1)
  | '/' :: path => .ok (filePlace none path)
  | path => .ok (filePlace none path)

/-- Reads what follows the scheme of an address, up to the query. `isLast` tells that
there is no query and no fragment. -/
def readFront (scheme : String) (isLast : Bool) (cs : List Char) :
    Except UrlFault (Option Authority × String) :=
  if scheme = "file" then do
    let (authority, path) ← readFile (cs.map fun c => if c = '\\' then '/' else c)
    return (some authority, path)
  else if isSpecial scheme then do
    let cs := (cs.map fun c => if c = '\\' then '/' else c).dropWhile (· = '/')
    let (authority, path) := cutPath cs
    let (authority, _) ← readAuthority scheme (isLast && path.isEmpty) authority
    return (some authority, Path.read (rooted true path))
  else match cs with
    | '/' :: '/' :: rest => do
        let (authority, path) := cutPath rest
        let (authority, rest) ← readAuthority scheme (isLast && path.isEmpty) authority
        return (some authority, pathText (rooted false (rest ++ path)))
    | '/' :: _ => return (none, Path.read cs)
    | cs => return (none, String.ofList (Percent.encode [] cs))

/-- The characters that are escaped in a query. -/
def queryReserved (scheme : String) : List Char :=
  if isSpecial scheme then " \"#<>'".toList else " \"#<>".toList

/-- The characters that are escaped in a fragment. -/
def fragmentReserved : List Char := " \"<>`".toList

/-- Tells whether a character is a line break or a tabulator. -/
def isBreak (c : Char) : Bool := c = '\t' || c = '\n' || c = '\r'

/-- The characters of a text that count for an address. -/
def significant (text : String) : List Char :=
  (Text.trim (·.toNat ≤ 0x20) text.toList).filter fun c => !isBreak c

/-- Reads an address. -/
def read (text : String) : Except UrlFault Url := do
  let (rest, fragment) := Text.cut '#' (significant text)
  let (rest, query) := Text.cut '?' rest
  let (scheme, rest) ← readScheme rest
  let (authority, path) ← readFront scheme (query.isNone && fragment.isNone) rest
  return {
    scheme := scheme
    authority := authority
    path := path
    query := query.map fun cs => String.ofList (Percent.encode (queryReserved scheme) cs)
    fragment := fragment.map fun cs => String.ofList (Percent.encode fragmentReserved cs) }

end WalletCredentials.Url
