import UserDirectory.Number

/-!
# UserDirectory — YAML values

What a YAML document means: nothing, truth values, numbers, texts, sequences, mappings, and values
with a tag of the author's own. The members of a mapping keep their order, but two mappings are the
same if they have the same members in whatever order.
-/

namespace UserDirectory.Yaml

open Number

/-- A number: an integer of 64 bits, with or without sign, or a binary fraction. -/
inductive Numeral where
  | integer (n : Int)
  | float (x : Binary64)
  deriving DecidableEq, Repr

/-- Whether two numbers are the same; zero has one value, whatever its sign. -/
def Numeral.same : Numeral → Numeral → Bool
  | .float (.finite _ 0 _), .float (.finite _ 0 _) => true
  | x, y => x == y

/-- A value. -/
inductive Value where
  | null
  | bool (b : Bool)
  | number (n : Numeral)
  | text (s : String)
  | sequence (items : List Value)
  | mapping (members : List (Value × Value))
  | tagged (tag : String) (value : Value)

namespace Value

mutual

/-- Whether two values are the same. -/
def same : Value → Value → Bool
  | .null, .null => true
  | .bool a, .bool b => a == b
  | .number a, .number b => a.same b
  | .text a, .text b => a == b
  | .sequence a, .sequence b => sameItems a b
  | .mapping a, .mapping b => a.length == b.length && membersWithin b a
  | .tagged t a, .tagged u b => t == u && same a b
  | _, _ => false

/-- Whether two lists hold the same values in the same order. -/
def sameItems : List Value → List Value → Bool
  | [], [] => true
  | a :: as, b :: bs => same a b && sameItems as bs
  | _, _ => false

/-- Whether every member of the second list is one of the first. -/
def membersWithin (b : List (Value × Value)) : List (Value × Value) → Bool
  | [] => true
  | (k, v) :: a => b.any (fun (l, w) => same k l && same v w) && membersWithin b a

end

/-- The value without tags around it. -/
def untagged : Value → Value
  | .tagged _ v => v.untagged
  | v => v

/-- The text of a value, with or without a tag. -/
def text? (v : Value) : Option String :=
  match v.untagged with
  | .text s => some s
  | _ => none

/-- The items of a sequence, with or without a tag. -/
def items? (v : Value) : Option (List Value) :=
  match v.untagged with
  | .sequence items => some items
  | _ => none

/-- The members of a mapping, with or without a tag. -/
def members? (v : Value) : Option (List (Value × Value)) :=
  match v.untagged with
  | .mapping members => some members
  | _ => none

/-- Whether the value is the given text, without a tag. -/
def isText (s : String) : Value → Bool
  | .text t => t == s
  | _ => false

/-- The value of the member with the given key. -/
def lookup? (members : List (Value × Value)) (key : String) : Option Value :=
  (members.find? fun (k, _) => k.isText key).map (·.2)

end Value

-- ---------------------------------------------------------------------------
-- Numbers as text
-- ---------------------------------------------------------------------------

/-- A text for a decimal: fractions from 10⁻⁵ up to 10¹⁶ are written in full, with a point and a
digit after it; others with one digit before the point, and an exponent. -/
def decimalChars (x : Decimal) : List Char :=
  let digits := Nat.toDigits 10 x.digits
  let n := digits.length
  let point : Int := n + x.exponent
  if 0 ≤ x.exponent ∧ point ≤ 16 then
    digits ++ List.replicate x.exponent.toNat '0' ++ ['.', '0']
  else if 0 < point ∧ point ≤ 16 then
    digits.take point.toNat ++ '.' :: digits.drop point.toNat
  else if -5 < point ∧ point ≤ 0 then
    '0' :: '.' :: (List.replicate (-point).toNat '0' ++ digits)
  else
    let front := if n = 1 then digits else digits.take 1 ++ '.' :: digits.drop 1
    front ++ 'e' :: (toString (point - 1)).toList

/-- The text of a number. -/
def Numeral.render : Numeral → String
  | .integer n => toString n
  | .float .nan => ".nan"
  | .float (.infinite negative) => if negative then "-.inf" else ".inf"
  | .float (.finite negative mantissa exponent) =>
    let digits := if mantissa = 0 then ['0', '.', '0'] else decimalChars (shortest mantissa exponent)
    String.ofList (if negative then '-' :: digits else digits)

end UserDirectory.Yaml
