/-
Paths into a JSON value. A path is empty or a sequence of tokens, each behind a
slash; a token names a field, or an item by its index.
-/
import GuidedLogin.Json.Basic
import GuidedLogin.Text.Ascii
import GuidedLogin.Text.Split

namespace GuidedLogin.Json

def unescapeSlash : List Char → List Char
  | '~' :: '1' :: rest => '/' :: unescapeSlash rest
  | c :: rest => c :: unescapeSlash rest
  | [] => []

def unescapeTilde : List Char → List Char
  | '~' :: '0' :: rest => '~' :: unescapeTilde rest
  | c :: rest => c :: unescapeTilde rest
  | [] => []

def token (chars : List Char) : List Char := unescapeTilde (unescapeSlash chars)

/-- An index is written in decimal without sign and without leading zeros. -/
def index? (chars : List Char) : Option Nat :=
  if chars.isEmpty || !chars.all Text.isDigit then none
  else if chars.head? = some '0' ∧ chars.length ≠ 1 then none
  else some (Text.decimalValue chars)

def member? (value : Json) (token : List Char) : Option Json :=
  match value with
  | .object fields => NameMap.findEntry (String.ofList token) fields
  | .array items => (index? token).bind (items[·]?)
  | _ => none

def pointer? (value : Json) (path : String) : Option Json :=
  match path.toList with
  | [] => some value
  | '/' :: rest =>
      (Text.splitAll '/' rest).foldl
        (fun found chars => found.bind (fun value => value.member? (token chars))) (some value)
  | _ => none

end GuidedLogin.Json
