/-!
# UserDirectory — texts that are read from the front

Which characters are blank is fixed by the property White_Space of the Unicode standard. A filter
may stand between blanks; inside it every character counts.

Positions in an expression are counted in bytes of its UTF-8 form. Readers work on characters;
this module converts at the edge. An offset is good when it falls between two characters of the
text (`suffixAt`).

Readers take something from the front of a list of characters or tokens and give back what is left,
together with a proof that it is shorter (`Rest`) or at least not longer (`Tail`). The proofs are
why readers end.

Main results: `trimChars_eq_self` (a text that neither starts nor ends with a blank is left alone),
`suffixAt_eq_some_iff` (the good offsets are the lengths of the prefixes) and `byteLength_append`.
-/

namespace UserDirectory.Text

-- ---------------------------------------------------------------------------
-- Blanks around a text
-- ---------------------------------------------------------------------------

/-- The code points with the property White_Space. -/
def blankRanges : List (Nat × Nat) := [
  (0x9, 0xD), (0x20, 0x20), (0x85, 0x85), (0xA0, 0xA0), (0x1680, 0x1680), (0x2000, 0x200A),
  (0x2028, 0x2029), (0x202F, 0x202F), (0x205F, 0x205F), (0x3000, 0x3000)]

/-- A character with the property White_Space. -/
def isBlank (c : Char) : Bool :=
  blankRanges.any fun (lo, hi) => lo ≤ c.toNat && c.toNat ≤ hi

/-- The text without the blanks before and after it. -/
def trimChars (cs : List Char) : List Char :=
  ((cs.dropWhile isBlank).reverse.dropWhile isBlank).reverse

/-- The text without the blanks before and after it. -/
def trim (s : String) : String := String.ofList (trimChars s.toList)

/-- A text that neither starts nor ends with a blank is left alone. -/
theorem trimChars_eq_self {cs : List Char} (hs : ∀ c ∈ cs.head?, isBlank c = false)
    (he : ∀ c ∈ cs.getLast?, isBlank c = false) : trimChars cs = cs := by
  have key : ∀ ds : List Char, (∀ c ∈ ds.head?, isBlank c = false) → ds.dropWhile isBlank = ds := by
    intro ds hd
    cases ds with
    | nil => rfl
    | cons d ds => rw [List.dropWhile_cons_of_neg]; simp [hd d rfl]
  rw [trimChars, key cs hs, key, List.reverse_reverse]
  rwa [List.head?_reverse]

-- ---------------------------------------------------------------------------
-- Offsets in bytes
-- ---------------------------------------------------------------------------

/-- The number of bytes that a text takes in UTF-8. -/
def byteLength : List Char → Nat
  | [] => 0
  | c :: cs => c.utf8Size + byteLength cs

/-- What follows the first `n` bytes of a text; none if they end inside a character or if there
are not as many. -/
def suffixAt : List Char → Nat → Option (List Char)
  | cs, 0 => some cs
  | [], _ + 1 => none
  | c :: cs, n => if c.utf8Size ≤ n then suffixAt cs (n - c.utf8Size) else none

@[simp] theorem byteLength_nil : byteLength [] = 0 := rfl

@[simp] theorem byteLength_cons (c : Char) (cs : List Char) :
    byteLength (c :: cs) = c.utf8Size + byteLength cs := rfl

@[simp] theorem byteLength_append (a b : List Char) :
    byteLength (a ++ b) = byteLength a + byteLength b := by
  induction a with
  | nil => simp
  | cons c a ih => simp only [List.cons_append, byteLength_cons, ih, Nat.add_assoc]

@[simp] theorem suffixAt_zero (cs : List Char) : suffixAt cs 0 = some cs := by
  cases cs <;> rfl

/-- The good offsets are the lengths of the prefixes of the text. -/
theorem suffixAt_eq_some_iff {cs rest : List Char} {n : Nat} :
    suffixAt cs n = some rest ↔ ∃ front, cs = front ++ rest ∧ byteLength front = n := by
  -- a character has at least one byte, so that only the empty front has none
  induction cs generalizing n with
  | nil =>
    cases n with
    | zero =>
      simp only [suffixAt_zero, Option.some.injEq, List.nil_eq_append_iff]
      constructor
      · rintro rfl
        exact ⟨[], ⟨rfl, rfl⟩, rfl⟩
      · rintro ⟨_, ⟨_, h⟩, _⟩
        exact h.symm
    | succ n =>
      simp only [suffixAt, reduceCtorEq, false_iff, not_exists, not_and]
      intro front hf
      obtain ⟨rfl, -⟩ := List.nil_eq_append_iff.1 hf
      simp
  | cons c cs ih =>
    have hpos := c.utf8Size_pos
    cases n with
    | zero =>
      simp only [suffixAt_zero, Option.some.injEq]
      constructor
      · rintro rfl
        exact ⟨[], rfl, rfl⟩
      · rintro ⟨front, hf, hl⟩
        cases front with
        | nil => exact hf
        | cons d front =>
          have := d.utf8Size_pos
          simp only [byteLength_cons] at hl
          omega
    | succ n =>
      simp only [suffixAt]
      split
      · rw [ih]
        constructor
        · rintro ⟨front, rfl, hl⟩
          exact ⟨c :: front, rfl, by simp only [byteLength_cons]; omega⟩
        · rintro ⟨front, hf, hl⟩
          cases front with
          | nil => simp at hl
          | cons d front =>
            obtain ⟨rfl, rfl⟩ := List.cons.inj hf
            exact ⟨front, rfl, by simp only [byteLength_cons] at hl; omega⟩
      · simp only [reduceCtorEq, false_iff, not_exists, not_and]
        intro front hf hl
        cases front with
        | nil => simp at hl
        | cons d front =>
          obtain ⟨rfl, rfl⟩ := List.cons.inj hf
          simp only [byteLength_cons] at hl
          omega

-- ---------------------------------------------------------------------------
-- What is left to read
-- ---------------------------------------------------------------------------

variable {α : Type}

/-- What is left of a list after something has been read from it. -/
abbrev Rest (s : List α) := { r : List α // r.length < s.length }

/-- What is left of a list after something may have been read from it. -/
abbrev Tail (s : List α) := { r : List α // r.length ≤ s.length }

namespace Rest

/-- The rest of the rest of a list, as a rest of it. -/
def trans {s : List α} (r : Rest s) (q : Rest r.1) : Rest s := ⟨q.1, Nat.lt_trans q.2 r.2⟩

/-- The rest of a list that has one more member in front. -/
def cons {s : List α} (c : α) (r : Rest s) : Rest (c :: s) := ⟨r.1, Nat.lt_succ_of_lt r.2⟩

/-- A rest of the tail of a list, as a rest of it. -/
def ofTail {s : List α} (t : Tail s) (r : Rest t.1) : Rest s := ⟨r.1, Nat.lt_of_lt_of_le r.2 t.2⟩

/-- The tail of a rest of a list, as a rest of it. -/
def tail {s : List α} (r : Rest s) (t : Tail r.1) : Rest s := ⟨t.1, Nat.lt_of_le_of_lt t.2 r.2⟩

/-- A rest, where it does not matter that it is shorter. -/
def toTail {s : List α} (r : Rest s) : Tail s := ⟨r.1, Nat.le_of_lt r.2⟩

end Rest

namespace Tail

/-- The whole list. -/
def whole (s : List α) : Tail s := ⟨s, Nat.le_refl _⟩

/-- The tail of a tail of a list, as a tail of it. -/
def trans {s : List α} (t : Tail s) (u : Tail t.1) : Tail s := ⟨u.1, Nat.le_trans u.2 t.2⟩

/-- The tail of a list that has one more member in front: a rest of that list. -/
def cons {s : List α} (c : α) (t : Tail s) : Rest (c :: s) := ⟨t.1, Nat.lt_succ_of_le t.2⟩

end Tail

end UserDirectory.Text
