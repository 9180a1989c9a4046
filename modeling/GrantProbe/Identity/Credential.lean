import GrantProbe.Error
import GrantProbe.Text.Search

/-!
# Credentials and identities

* `Credential`: a bearer token that is never shown; `Credential.issued` accepts only what looks like a
  service account token;
* `Identity`: a service account with its credential.
-/

namespace GrantProbe

/-- **A bearer token.** -/
structure Credential where
  token : String
  deriving DecidableEq, Repr, Inhabited

namespace Credential

/-- The least number of bytes of an issued token. -/
def minLength : Nat := 50

/-- The dot-separated segments of a token. -/
def segments (token : String) : List String := Text.pieces '.' token

/-- **An issued token** is long enough and has three segments, none of them empty. -/
def issued (token : String) : Except String Credential :=
  if token.utf8ByteSize < minLength then
    .error ("token too short (" ++ toString token.utf8ByteSize ++ " characters, need at least " ++
      toString minLength ++ ")")
  else if (segments token).length ≠ 3 ∨ (segments token).any (·.isEmpty) then
    .error ("token is not a JWT (" ++ toString (segments token).length ++ " segments, expected 3)")
  else .ok ⟨token⟩

/-- What is shown of a credential: its length. -/
def display (c : Credential) : String :=
  "Credential(<" ++ toString c.token.utf8ByteSize ++ " bytes>)"

end Credential

/-- **An identity** that has been provisioned. -/
structure Identity where
  name : String
  scope : String
  credential : Credential
  deriving DecidableEq, Repr, Inhabited

/-- What is shown of an identity. -/
def Identity.display (i : Identity) : String :=
  "Identity \x7b name: " ++ Text.quoted i.name ++ ", scope: " ++ Text.quoted i.scope ++
    ", credential: " ++ i.credential.display ++ " \x7d"

end GrantProbe
