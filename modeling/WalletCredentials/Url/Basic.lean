import WalletCredentials.Encoding.Form
import WalletCredentials.Url.Host

/-!
# Addresses

An address keeps its parts apart: where the host ends and where the query starts is
never read off its text again.
-/

namespace WalletCredentials

/-- The part of an address that says where to connect. -/
structure Url.Authority where
  /-- The name of a user, and a password after a colon, both escaped. -/
  userinfo : String
  host : Option Host
  /-- The port, if it is not that of the scheme. -/
  port : Option Nat
  deriving DecidableEq, Repr

/-- The text of an authority. -/
def Url.Authority.text (a : Url.Authority) : String :=
  (if a.userinfo.isEmpty then "" else a.userinfo ++ "@") ++
    (a.host.map Host.text).getD "" ++
    (match a.port with
      | some n => ":" ++ toString n
      | none => "")

/-- An address. -/
structure Url where
  scheme : String
  authority : Option Url.Authority
  /-- The path, escaped. -/
  path : String
  /-- The query, escaped. -/
  query : Option String
  /-- The fragment, escaped. -/
  fragment : Option String
  deriving DecidableEq, Repr

namespace Url

/-- A part of an address behind its mark, if it has that part. -/
def marked (mark : String) : Option String → String
  | some part => mark ++ part
  | none => ""

/-- The text of the part of an address before the query. Without an authority, a path
that starts with two slashes would look like one. -/
def front (url : Url) : String :=
  url.scheme ++ ":" ++
    match url.authority with
    | some a => "//" ++ a.text ++ url.path
    | none => if url.path.startsWith "//" then "/." ++ url.path else url.path

/-- The text of an address. -/
def text (url : Url) : String :=
  url.front ++ marked "?" url.query ++ marked "#" url.fragment

instance : ToString Url := ⟨text⟩

/-- The pairs in the query of an address. -/
def pairs (url : Url) : List (String × String) := Form.decode (url.query.getD "")

/-- The value of the first pair with a name. -/
def value? (url : Url) (name : String) : Option String :=
  (url.pairs.find? fun pair => pair.1 = name).map Prod.snd

/-- The address with pairs at the end of its query. -/
def withPairs (url : Url) (pairs : List (String × String)) : Url :=
  match url.query with
  | none => { url with query := some (Form.encode pairs) }
  | some query =>
      if query.isEmpty then { url with query := some (Form.encode pairs) }
      else { url with query := some (query ++ "&" ++ Form.encode pairs) }

end Url

end WalletCredentials
