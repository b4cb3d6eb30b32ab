import WalletCredentials.Encoding.Form
import WalletCredentials.Json.Printer
import WalletCredentials.Server.Failure

/-!
# Requests and answers

What a request says is read from its query, its form and its headers.

## Implementation notes

A request is given by its texts, and so bodies and headers that are no texts are left out. Of the
headers of an answer there are only those that a handler or a route sets.
-/

namespace WalletCredentials

/-- A request. -/
structure Request where
  method : String
  path : String
  /-- The query, still escaped. -/
  query : String
  headers : List (String × String)
  body : String
  deriving DecidableEq, Repr

namespace Request

/-- The path and the query of what a request asks for: a path, or an address with a
host. A fragment does not count. -/
def splitTarget (target : String) : String × String :=
  let cs := (Text.cut '#' target.toList).1
  let (path, query) := Text.cut '?' cs
  let path := match Text.cut ':' path with
    | (_ :: _, some ('/' :: '/' :: rest)) =>
        if path.head? = some '/' then path else rest.dropWhile (· ≠ '/')
    | _ => path
  (String.ofList (if path.isEmpty then ['/'] else path), String.ofList (query.getD []))

/-- The value of the first header with a name, in letters of either case. -/
def header? (request : Request) (name : String) : Option String :=
  (request.headers.find? fun h => h.1.toLower = name).map Prod.snd

/-- Tells whether a character may stand in a header that is read as text. -/
def isVisible (c : Char) : Bool := (32 ≤ c.toNat && c.toNat < 127) || c = '\t'

/-- The text of a header. -/
def headerText? (request : Request) (name : String) : Option String :=
  (request.header? name).filter fun value => value.toList.all isVisible

/-- The host that was asked. -/
def host (request : Request) : Except Failure String :=
  match (request.headerText? "host").filter fun host => !host.isEmpty with
  | some host => .ok host
  | none => .error (.badRequest "missing Host header")

/-- Tells whether the body of a request is a form. -/
def hasForm (request : Request) : Bool :=
  match request.headerText? "content-type" with
  | some kind => kind.startsWith "application/x-www-form-urlencoded"
  | none => false

/-- The first name among some that stands in pairs a second time. -/
def repeated? (names : List String) : (seen : List String) → List (String × String) → Option String
  | _, [] => none
  | seen, (name, _) :: rest =>
      if seen.contains name then some name
      else repeated? names (if names.contains name then name :: seen else seen) rest

/-- The pairs of a form, none of whose fields may stand twice. -/
def readFields (source : String) (names : List String) (text : String) :
    Except Failure (List (String × String)) :=
  let pairs := Form.decode text
  match repeated? names [] pairs with
  | some name => .error (.badRequest ("Failed to deserialize " ++ source ++ ": " ++
      (DataFault.duplicateField name).message))
  | none => .ok pairs

/-- The pairs of the query. -/
def queryFields (request : Request) (names : List String) :
    Except Failure (List (String × String)) :=
  readFields "query string" names request.query

/-- The number of bytes up to which the body of a request is taken in: two mebibytes. -/
def maxBodyBytes : Nat := 2097152

/-- The pairs of the form, none if the body is no form. A body that is too long is not read. -/
def formFields (request : Request) (names : List String) :
    Except Failure (List (String × String)) :=
  if !request.hasForm then .ok []
  else if maxBodyBytes < (Utf8.encode request.body).length then
    .error (.badRequest "Failed to buffer the request body: length limit exceeded")
  else readFields "form body" names request.body

/-- The pairs of the query and after them those of the form. -/
def fields (request : Request) (names : List String) :
    Except Failure (List (String × String)) := do
  let query ← request.queryFields names
  let form ← request.formFields names
  return query ++ form

/-- The value of the first pair with a name, empty if there is none. -/
def field (pairs : List (String × String)) (name : String) : String :=
  ((pairs.find? fun pair => pair.1 = name).map Prod.snd).getD ""

end Request

/-- The body of an answer. -/
inductive Body
  | empty
  | text (s : String)
  | json (value : Json)

/-- An answer. -/
structure Response where
  status : Nat
  /-- The methods that the path knows, where the method of the request is none of them. -/
  allow : Option String
  contentType : Option String
  body : Body

namespace Response

/-- The answer with a value. -/
def json (status : Nat) (value : Json) : Response :=
  ⟨status, none, some "application/json", .json value⟩

/-- The answer with a line of text. -/
def text (s : String) : Response := ⟨200, none, some "text/plain; charset=utf-8", .text s⟩

/-- The answer to a failed request. -/
def failure (failure : Failure) : Response := json failure.status (Record.toJson failure.body)

/-- The answer to a request for a path that there is not. -/
def notFound : Response := ⟨404, none, none, .empty⟩

/-- The answer to a request with a method that the path does not know. -/
def notAllowed (methods : String) : Response := ⟨405, some methods, none, .empty⟩

/-- The answer without its body. -/
def withoutBody (response : Response) : Response := { response with body := .empty }

/-- Tells whether an answer says that the request failed. -/
def isError (response : Response) : Bool := 400 ≤ response.status && response.status < 600

/-- The text of the body of an answer. -/
def bodyText (response : Response) : String :=
  match response.body with
  | .empty => ""
  | .text s => s
  | .json value => value.text

end Response

end WalletCredentials
