import Foldbook.Text.Base64
import Foldbook.Text.Blank
import Foldbook.Text.Lines

/-!
# Basic authorization

A header `Authorization: Basic user:password` with literal credentials is sent with the
credentials in Base64.  Credentials hold exactly one colon with something on either side.
-/

namespace Foldbook.Http

open Text

/-- Whether a text is a user and a password with one colon between them. -/
def isCredentials (cs : List Char) : Bool :=
  match cutAt? [':'] cs with
  | some (user, password) => !user.isEmpty && !password.isEmpty && !password.contains ':'
  | none => false

/-- The credentials of a header, if it is a literal basic authorization.  Blanks behind `Basic`
belong to the words before the credentials as far as the credentials allow it. -/
def credentials? (header : List Char) : Option (List Char) := do
  let rest ← dropPrefix? "Authorization:".toList header
  let c :: rest := rest | none
  if isBlank c then
    let rest ← dropPrefix? "Basic".toList (rest.dropWhile isBlank)
    afterSomeBlanks (fun cs => if isCredentials cs then some cs else none) rest
  else none

/-- The header with literal credentials in Base64; any other header stays. -/
def encodeAuthorization (header : String) : String :=
  let cs := header.toList
  match credentials? cs with
  | none => header
  | some credentials =>
    String.ofList (cs.take (cs.length - credentials.length)) ++
      Base64.ofText (String.ofList credentials)

end Foldbook.Http
