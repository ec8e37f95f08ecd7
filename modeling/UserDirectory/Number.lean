/-!
# UserDirectory — floating point numbers and their shortest decimals

Numbers of 64 bits: a mantissa below 2⁵³ times a power of two whose exponent is at least -1074. A
quotient is rounded to the nearest such number, and a quotient halfway between two of them to the
one with the even mantissa. All of it is exact arithmetic on natural numbers.

A number is written as the shortest decimal that reads back as it: of all decimals that are nearer
to it than to any other number, one with the fewest digits, and of those the one nearest to it. The
decimals that read back form an interval. For one digit, two digits and so on, up to the seventeen
that always suffice, the two decimals of that many digits next to the number are tried.
-/

namespace UserDirectory.Number

-- ---------------------------------------------------------------------------
-- Binary numbers
-- ---------------------------------------------------------------------------

/-- A number of 64 bits: `mantissa * 2 ^ exponent`, or an infinity, or no number at all. The mantissa
is at least 2⁵², unless the exponent is -1074. -/
inductive Binary64 where
  | finite (negative : Bool) (mantissa : Nat) (exponent : Int)
  | infinite (negative : Bool)
  | nan
  deriving DecidableEq, Repr

/-- The quotient of `num` and `den`, rounded to the nearest number; halves go to the even one. -/
def roundQuotient (num den : Nat) : Nat :=
  let q := num / den
  let r := num % den
  if 2 * r < den then q else if den < 2 * r then q + 1 else if q % 2 = 0 then q else q + 1

/-- The number of binary digits. -/
def bitLength (n : Nat) : Nat := if n = 0 then 0 else n.log2 + 1

/-- `num / den`, divided by `2 ^ e`, as a quotient of natural numbers. -/
def scaleDown (num den : Nat) (e : Int) : Nat × Nat :=
  match e with
  | .ofNat n => (num, den * Nat.pow 2 n)
  | .negSucc n => (num * Nat.pow 2 (n + 1), den)

/-- The exponent for the quotient `num / den`: the least one with which the mantissa stays below
2⁵³. -/
def exponentFor (num den : Nat) : Int :=
  let guess : Int := (bitLength num : Int) - bitLength den - 53
  let (n, d) := scaleDown num den guess
  max (if n < d * Nat.pow 2 53 then guess else guess + 1) (-1074)

/-- The number nearest to `num / den`, which is not negative. -/
def Binary64.ofQuotient (negative : Bool) (num den : Nat) : Binary64 :=
  if num = 0 then .finite negative 0 (-1074)
  else
    let e := exponentFor num den
    let (n, d) := scaleDown num den e
    let m := roundQuotient n d
    let (m, e) := if m = Nat.pow 2 53 then (Nat.pow 2 52, e + 1) else (m, e)
    if 971 < e then .infinite negative else .finite negative m e

/-- The number nearest to `digits * 10 ^ exponent`. -/
def Binary64.ofDecimal (negative : Bool) (digits : Nat) (exponent : Int) : Binary64 :=
  let length : Int := (Nat.toDigits 10 digits).length
  if digits = 0 then .finite negative 0 (-1074)
  else if 400 < length + exponent then .infinite negative
  else if length + exponent < -400 then .finite negative 0 (-1074)
  else
    match exponent with
    | .ofNat n => .ofQuotient negative (digits * Nat.pow 10 n) 1
    | .negSucc n => .ofQuotient negative digits (Nat.pow 10 (n + 1))

-- ---------------------------------------------------------------------------
-- Shortest decimals
-- ---------------------------------------------------------------------------

/-- A decimal: `digits * 10 ^ exponent`. -/
structure Decimal where
  digits : Nat
  exponent : Int
  deriving DecidableEq, Repr

/-- The decimals that read back, as multiples of `1 / den`: the number itself and the ends of the
interval, which belong to it if `closed` is set. -/
structure ReadingInterval where
  value : Nat
  low : Nat
  high : Nat
  den : Nat
  closed : Bool

/-- The interval for `mantissa * 2 ^ exponent`. Below a power of two, numbers lie twice as close. -/
def readingInterval (mantissa : Nat) (exponent : Int) : ReadingInterval :=
  let below := if mantissa = Nat.pow 2 52 ∧ -1074 < exponent then 1 else 2
  let (up, den) := match exponent - 2 with
    | .ofNat n => (Nat.pow 2 n, 1)
    | .negSucc n => (1, Nat.pow 2 (n + 1))
  ⟨4 * mantissa * up, (4 * mantissa - below) * up, (4 * mantissa + 2) * up, den,
    mantissa % 2 == 0⟩

/-- Whether `digits * 10 ^ exponent` lies in the interval. -/
def ReadingInterval.holds (i : ReadingInterval) (digits : Nat) (exponent : Int) : Bool :=
  let (x, scale) := match exponent with
    | .ofNat n => (digits * Nat.pow 10 n * i.den, 1)
    | .negSucc n => (digits * i.den, Nat.pow 10 (n + 1))
  if i.closed then i.low * scale ≤ x && x ≤ i.high * scale
  else i.low * scale < x && x < i.high * scale

/-- The number in units of `10 ^ exponent`, as a quotient. -/
def ReadingInterval.inUnits (i : ReadingInterval) (exponent : Int) : Nat × Nat :=
  match exponent with
  | .ofNat n => (i.value, i.den * Nat.pow 10 n)
  | .negSucc n => (i.value * Nat.pow 10 (n + 1), i.den)

/-- The place of the first digit of the number: the least `p` for which it is below `10 ^ p`. It is
looked for from `p` on. -/
def ReadingInterval.magnitude (i : ReadingInterval) : Nat → Int → Int
  | 0, p => p
  | fuel + 1, p =>
    let (n, d) := i.inUnits p
    if n < d then p else i.magnitude fuel (p + 1)

/-- The nearest decimal that reads back and whose last digit stands at `10 ^ exponent`. -/
def ReadingInterval.nearest? (i : ReadingInterval) (exponent : Int) : Option Decimal :=
  let (n, d) := i.inUnits exponent
  let q := n / d
  match i.holds q exponent, i.holds (q + 1) exponent with
  | false, false => none
  | true, false => some ⟨q, exponent⟩
  | false, true => some ⟨q + 1, exponent⟩
  | true, true => some ⟨roundQuotient n d, exponent⟩

/-- The decimal without zeros at its end. -/
def Decimal.trimZeros : Nat → Decimal → Decimal
  | 0, x => x
  | fuel + 1, x =>
    if x.digits % 10 = 0 then Decimal.trimZeros fuel ⟨x.digits / 10, x.exponent + 1⟩ else x

/-- The shortest decimal that reads back as `mantissa * 2 ^ exponent`, which is not zero. -/
def shortest (mantissa : Nat) (exponent : Int) : Decimal :=
  let i := readingInterval mantissa exponent
  let guess := ((bitLength mantissa : Int) - 1 + exponent) * 301 / 1000 - 1
  let p := i.magnitude 6 guess
  let found := (List.range 17).findSome? fun (k : Nat) => i.nearest? (p - (k + 1))
  (found.getD ⟨i.value, 0⟩).trimZeros 20

end UserDirectory.Number
