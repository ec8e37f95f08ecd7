import UserDirectory.Password.Sha1
import UserDirectory.Password.Base64

/-!
# UserDirectory — passwords

A stored password carries the tag `{SSHA}` and, in Base64, the SHA-1 digest of the password
followed by a salt of four bytes, and then the salt itself. Passwords in a users document may be
stored ones, which are kept as they are, or plain ones, which are encoded when they are taken in; a
value with any other tag is refused.
-/

namespace UserDirectory.Password

/-- Four bytes that make equal passwords look different. -/
abbrev Salt := { bytes : List UInt8 // bytes.length = 4 }

/-- The salt of the given bytes, if they are four. -/
def Salt.ofBytes? (bytes : List UInt8) : Option Salt :=
  if h : bytes.length = 4 then some ⟨bytes, h⟩ else none

/-- The tag of a stored password. -/
def schemeTag : List Char := ['\x7b', 'S', 'S', 'H', 'A', '\x7d']

/-- The bytes of a text in UTF-8. -/
def utf8 (s : String) : List UInt8 := s.toUTF8.data.toList

/-- The digest of a password with a salt. -/
def digest (raw : String) (salt : List UInt8) : List UInt8 := sha1 (utf8 raw ++ salt)

/-- The stored form of a password. -/
def encode (salt : Salt) (raw : String) : String :=
  String.ofList (schemeTag ++ Base64.encode (digest raw salt.1 ++ salt.1))

/-- Whether `raw` is the password that `stored` was made from. -/
def verifies (stored raw : String) : Bool :=
  if schemeTag.isPrefixOf stored.toList then
    match Base64.decode (stored.toList.drop schemeTag.length) with
    | none => false
    | some payload =>
      payload.length == 24 && digest raw (payload.drop 20) == payload.take 20
  else false

/-- A password whose tag is not known. -/
structure UnsupportedScheme where
  /-- What stands in the tag. -/
  scheme : String
  deriving DecidableEq, Repr

/-- The message for a user. -/
def UnsupportedScheme.message (e : UnsupportedScheme) : String :=
  "unsupported password encoding scheme '" ++ e.scheme ++ "'"

/-- The form in which a password from a document is stored. -/
def ingest (salt : Salt) (value : String) : Except UnsupportedScheme String :=
  if schemeTag.isPrefixOf value.toList then .ok value
  else
    match value.toList with
    | '\x7b' :: tagged => .error ⟨String.ofList (tagged.takeWhile (· != '\x7d'))⟩
    | _ => .ok (encode salt value)

end UserDirectory.Password
