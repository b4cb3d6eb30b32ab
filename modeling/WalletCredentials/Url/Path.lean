import WalletCredentials.Encoding.Percent
import WalletCredentials.Text.Split

/-!
# Paths

A path is a list of segments. A segment of one dot stands for the place where it is
and one of two dots for the place above; neither stays in the path.
-/

namespace WalletCredentials.Url.Path

/-- The characters that are escaped in a path, beside controls. -/
def reserved : List Char := " \"<>`#?\x7b\x7d".toList

/-- A segment with its escaped dots as dots. -/
def plainDots : List Char → List Char
  | '%' :: '2' :: 'e' :: rest => '.' :: plainDots rest
  | '%' :: '2' :: 'E' :: rest => '.' :: plainDots rest
  | c :: rest => c :: plainDots rest
  | [] => []

/-- Tells whether a segment stands for the place where it is. -/
def isHere (segment : List Char) : Bool := plainDots segment = ['.']

/-- Tells whether a segment stands for the place above. -/
def isAbove (segment : List Char) : Bool := plainDots segment = ['.', '.']

/-- Tells whether a segment names a drive: a letter, and a colon or a bar. -/
def isDrive : List Char → Bool
  | [letter, mark] => letter.isAlpha && (mark = ':' || mark = '|')
  | _ => false

/-- The form of a segment below the root of a file system, where a drive has a colon. -/
def driveForm (segment : List Char) : List Char :=
  if isDrive segment then segment.take 1 ++ [':'] else segment

/-- The place above a place, whose segments are in reverse order. Nothing is above a drive. -/
def above : List (List Char) → List (List Char)
  | [] => []
  | segment :: before => if isDrive segment then segment :: before else before

/-- The segments of a path, without dots. Those before are in reverse order, and `first`
gives the form of a segment that none is before. -/
def resolve (first : List Char → List Char) :
    (before : List (List Char)) → List (List Char) → List (List Char)
  | before, [] => before.reverse
  | before, segment :: rest =>
      if isAbove segment then
        resolve first (if rest.isEmpty then [] :: above before else above before) rest
      else if isHere segment then resolve first (if rest.isEmpty then [] :: before else before) rest
      else
        let escaped := Percent.encode reserved segment
        resolve first ((if before.isEmpty then first escaped else escaped) :: before) rest

/-- The text of segments. -/
def text (segments : List (List Char)) : String :=
  String.ofList (segments.flatMap fun segment => '/' :: segment)

/-- Reads a path, which starts with a slash unless it is empty. -/
def read (cs : List Char) : String :=
  text (resolve id [] (Text.pieces '/' (cs.drop 1)))

/-- The segments of the path of a file, read from behind its first slash. -/
def fileSegments (cs : List Char) : List (List Char) :=
  resolve driveForm [] (Text.pieces '/' cs)

end WalletCredentials.Url.Path
