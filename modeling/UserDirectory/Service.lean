import UserDirectory.Directory

/-!
# UserDirectory — answering clients

Bind and search requests, as they arrive when the protocol has been decoded, and the results to be
sent. A search below a base that is not served finds nothing, and its result says so; all entries
that are found lie within the base of the request.

A distinguished name lists its components from the innermost to the outermost, with commas between
them. A name is within a base if the components of the base are the last ones of the name, without
regard to letter case. Everything is within the empty base.
-/

namespace UserDirectory

open Text

/-- Whether `dn` is `base` or a name below it. -/
def isWithin (dn base : String) : Bool :=
  base.isEmpty ||
    let name := lowerChars dn.toList
    let root := lowerChars base.toList
    name == root || (',' :: root).isSuffixOf name

/-- How an operation ended. -/
inductive ResultCode where
  | success
  /-- The base of the search is not served here. -/
  | noSuchObject
  | invalidCredentials
  /-- The request is not understood. -/
  | unwillingToPerform
  deriving DecidableEq, Repr

/-- The number of a code in the protocol. -/
def ResultCode.number : ResultCode → Nat
  | .success => 0
  | .noSuchObject => 32
  | .invalidCredentials => 49
  | .unwillingToPerform => 53

/-- The result of an operation. -/
structure LdapResult where
  code : ResultCode
  /-- The part of the requested name that was found; it is left open. -/
  matched : String := ""
  /-- A text for the user. -/
  text : String := ""
  /-- Other servers to turn to; there are none. -/
  referrals : List String := []
  deriving DecidableEq, Repr

/-- A request to search. -/
structure SearchRequest where
  /-- The name the client has bound with. All clients get the same answers. -/
  boundDn : String := ""
  /-- The name below which to search. -/
  base : String
  /-- The text of the filter. -/
  filter : String
  deriving DecidableEq, Repr

/-- The answer to a search. -/
structure SearchAnswer where
  entries : List SearchEntry
  result : LdapResult
  deriving DecidableEq, Repr

namespace Directory

/-- Answer a client that wants to bind. -/
def answerBind (d : Directory) (dn password : String) : LdapResult :=
  match d.snapshot.bind dn password with
  | .success => ⟨.success, "", "", []⟩
  | .invalidCredentials => ⟨.invalidCredentials, "", "invalid credentials", []⟩

/-- Answer a search. A filter that cannot be read is refused before the base is looked at. -/
def answerSearch (d : Directory) (request : SearchRequest) : SearchAnswer :=
  match Filter.parse request.filter with
  | .error e => ⟨[], ⟨.unwillingToPerform, "", e.message, []⟩⟩
  | .ok filter =>
    if isWithin request.base d.config.baseDn then
      let found := (d.snapshot.search filter).filter fun e => isWithin e.dn request.base
      ⟨found.map (·.toSearchEntry), ⟨.success, "", "", []⟩⟩
    else ⟨[], ⟨.noSuchObject, "", "", []⟩⟩

end Directory

end UserDirectory
