import UserDirectory.Yaml.Value

/-!
# UserDirectory — what plain YAML scalars mean

A scalar that is written without quotes may be nothing, a truth value or a number; else it is a
text. Numbers that fit no integer of 64 bits but one of 128 are refused (`Reading.tooLarge`).
-/

namespace UserDirectory.Yaml

open Number

/-- The text without a plus sign in front. -/
def dropPlus : List Char → List Char
  | '+' :: cs => cs
  | cs => cs

/-- Whether a sign stands in front. -/
def startsWithSign : List Char → Bool
  | '+' :: _ => true
  | '-' :: _ => true
  | _ => false

/-- Whether the text is nothing. The empty text is not counted here. -/
def isNull (cs : List Char) : Bool :=
  cs == ['~'] || cs == "null".toList || cs == "Null".toList || cs == "NULL".toList

/-- The truth value that a text is. -/
def bool? (cs : List Char) : Option Bool :=
  match String.ofList cs with
  | "true" | "True" | "TRUE" => some true
  | "false" | "False" | "FALSE" => some false
  | _ => none

/-- The value of a digit below `base`. -/
def digitBelow? (base : Nat) (c : Char) : Option Nat :=
  let n :=
    if c.isDigit then c.toNat - '0'.toNat
    else if 'a' ≤ c ∧ c ≤ 'z' then c.toNat - 'a'.toNat + 10
    else if 'A' ≤ c ∧ c ≤ 'Z' then c.toNat - 'A'.toNat + 10
    else base
  if n < base then some n else none

/-- The number that digits stand for; there must be some. -/
def natural? (base : Nat) (cs : List Char) : Option Nat :=
  if cs.isEmpty then none
  else (cs.mapM (digitBelow? base)).map fun ds => ds.foldl (fun n d => n * base + d) 0

/-- The bases that a mark in front may give. -/
def baseOfMark? : List Char → Option (Nat × List Char)
  | '0' :: 'x' :: cs => some (16, cs)
  | '0' :: 'o' :: cs => some (8, cs)
  | '0' :: 'b' :: cs => some (2, cs)
  | _ => none

/-- Whether the text is made of digits but has a zero in front, so that it is no number. -/
def isZeroPadded (cs : List Char) : Bool :=
  let digits := if startsWithSign cs then cs.tail else cs
  2 ≤ digits.length && digits.head? == some '0' && digits.all Char.isDigit

/-- The number that a text without minus sign is, whatever its size. -/
def unsigned? (cs : List Char) : Option Nat :=
  let body := dropPlus cs
  match baseOfMark? body with
  | some (base, digits) => natural? base digits
  | none => if isZeroPadded cs then none else natural? 10 body

/-- The number that a text with a minus sign is, without its sign and whatever its size. -/
def negative? : List Char → Option Nat
  | '-' :: cs =>
    match baseOfMark? cs with
    | some (base, digits) => natural? base digits
    | none => if isZeroPadded ('-' :: cs) then none else natural? 10 cs
  | _ => none

/-- What a text is, when it is read as an integer. -/
inductive Reading where
  | integer (n : Int)
  /-- An integer of more than 64 bits. -/
  | tooLarge
  /-- No integer. -/
  | other

/-- Read a text as an integer. An integer of more than 128 bits is none. -/
def readInteger (cs : List Char) : Reading :=
  match unsigned? cs, negative? cs with
  | some n, _ =>
    if n < Nat.pow 2 64 then .integer n else if n < Nat.pow 2 128 then .tooLarge else .other
  | none, some n =>
    if n ≤ Nat.pow 2 63 then .integer (-n) else if n ≤ Nat.pow 2 127 then .tooLarge else .other
  | none, none => .other

/-- The exponent behind a fraction, which may be left out. -/
def exponent? : List Char → Option Int
  | [] => some 0
  | e :: cs =>
    if e == 'e' || e == 'E' then
      match cs with
      | '-' :: ds => (natural? 10 ds).map fun n => -(n : Int)
      | ds => (natural? 10 (dropPlus ds)).map fun n => (n : Int)
    else none

/-- The fraction that a text without sign is. -/
def fraction? (negative : Bool) (cs : List Char) : Option Binary64 :=
  let whole := cs.takeWhile Char.isDigit
  let rest := cs.dropWhile Char.isDigit
  let (decimals, rest) := match rest with
    | '.' :: ds => (ds.takeWhile Char.isDigit, ds.dropWhile Char.isDigit)
    | ds => ([], ds)
  match natural? 10 (whole ++ decimals), exponent? rest with
  | some n, some e => some (.ofDecimal negative n (e - decimals.length))
  | _, _ => none

/-- The binary fraction that a text is. A number that is too great is none. -/
def float? (cs : List Char) : Option Binary64 :=
  if cs.head? == some '+' && startsWithSign cs.tail then none
  else
    let body := dropPlus cs
    match String.ofList body, String.ofList cs with
    | ".inf", _ | ".Inf", _ | ".INF", _ => some (.infinite false)
    | _, "-.inf" | _, "-.Inf" | _, "-.INF" => some (.infinite true)
    | _, ".nan" | _, ".NaN" | _, ".NAN" => some .nan
    | _, _ =>
      let x := match body with
        | '-' :: ds => fraction? true ds
        | ds => fraction? false ds
      match x with
      | some (.finite n m e) => some (.finite n m e)
      | _ => none

/-- What a scalar means that is written without quotes. -/
def plainValue? (cs : List Char) : Option Value :=
  if cs.isEmpty || isNull cs then some .null
  else
    match bool? cs with
    | some b => some (.bool b)
    | none =>
      match readInteger cs with
      | .integer n => some (.number (.integer n))
      | .tooLarge => none
      | .other =>
        if isZeroPadded cs then some (.text (String.ofList cs))
        else
          match float? cs with
          | some x => some (.number (.float x))
          | none => some (.text (String.ofList cs))

end UserDirectory.Yaml
