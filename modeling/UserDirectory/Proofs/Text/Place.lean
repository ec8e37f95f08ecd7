import Mathlib.Data.List.Basic
import Mathlib.Data.List.TakeWhile
import Mathlib.Tactic.SplitIfs
import UserDirectory.Text.Basic

/-!
# UserDirectory — places in a text

A place is a number of bytes from the start of a text in UTF-8. It is a good one if it is between
two characters or at an end of the text. What is behind any other place is not a text, and the byte
there may be one inside of a character. At a good place, the byte and the text up to another good
place can be told from the characters.

## Results

* `suffixAt_add`         — a place moves on by the bytes of what it moves over.
* `byteAt?_eq_close_iff` — at a good place, the byte of a closing parenthesis is one.
* `slice?_of_append`     — the text between two good places.
-/

namespace UserDirectory.Text

/-- Whether a place is between two characters of a text, or at an end of it. -/
def IsPlace (cs : List Char) (place : Nat) : Prop :=
  ∃ front back, cs = front ++ back ∧ byteLength front = place

/-- What is behind a place; nothing if it is no good one. -/
def behind (cs : List Char) (place : Nat) : List Char := (suffixAt cs place).getD []

/-- The byte at a place; none at the end of the text and beyond. -/
def byteAt? (cs : List Char) (place : Nat) : Option UInt8 :=
  (cs.flatMap String.utf8EncodeChar)[place]?

/-- The byte of a closing parenthesis. -/
def closeByte : UInt8 := 0x29

/-- The place of the first `x`. -/
def firstPlace? (x : Char) (cs : List Char) : Option Nat :=
  if x ∈ cs then some (byteLength (cs.takeWhile (· != x))) else none

/-- The text between two places; none if one of them is no good one or if they are in the wrong
order. -/
def slice? (cs : List Char) (first last : Nat) : Option (List Char) :=
  match suffixAt cs first, suffixAt cs last with
  | some s, some t => if first ≤ last then some (s.take (s.length - t.length)) else none
  | _, _ => none

variable {cs front back rest : List Char} {place : Nat}

theorem suffixAt_append (front back : List Char) :
    suffixAt (front ++ back) (byteLength front) = some back :=
  suffixAt_eq_some_iff.mpr ⟨front, rfl, rfl⟩

-- ---------------------------------------------------------------------------
-- Good places
-- ---------------------------------------------------------------------------

/-- At a good place there is a text behind it. -/
theorem isPlace_iff : IsPlace cs place ↔ suffixAt cs place = some (behind cs place) := by
  constructor
  · rintro ⟨front, back, rfl, rfl⟩
    rw [behind, suffixAt_append]
    rfl
  · intro h
    obtain ⟨front, hs, hlength⟩ := suffixAt_eq_some_iff.mp h
    exact ⟨front, _, hs, hlength⟩

theorem isPlace_of_suffixAt (h : suffixAt cs place = some rest) : IsPlace cs place := by
  obtain ⟨front, hs, hlength⟩ := suffixAt_eq_some_iff.mp h
  exact ⟨front, rest, hs, hlength⟩

theorem behind_of_suffixAt (h : suffixAt cs place = some rest) : behind cs place = rest := by
  rw [behind, h]
  rfl

theorem byteLength_of_suffixAt (h : suffixAt cs place = some rest) :
    byteLength cs = place + byteLength rest := by
  obtain ⟨front, rfl, rfl⟩ := suffixAt_eq_some_iff.mp h
  exact byteLength_append front rest

/-- A good place is not behind the end of the text. -/
theorem IsPlace.le (h : IsPlace cs place) : place ≤ byteLength cs := by
  obtain ⟨front, back, rfl, rfl⟩ := h
  rw [byteLength_append]
  exact Nat.le_add_right _ _

/-- A place moves on by the bytes of what it moves over. -/
theorem suffixAt_add (front : List Char) (h : suffixAt cs place = some (front ++ rest)) :
    suffixAt cs (place + byteLength front) = some rest := by
  obtain ⟨before, rfl, rfl⟩ := suffixAt_eq_some_iff.mp h
  rw [← List.append_assoc, ← byteLength_append]
  exact suffixAt_append _ _

-- ---------------------------------------------------------------------------
-- Bytes
-- ---------------------------------------------------------------------------

/-- The bytes of a text are as many as its length in bytes says. -/
theorem length_flatMap_utf8EncodeChar (cs : List Char) :
    (cs.flatMap String.utf8EncodeChar).length = byteLength cs := by
  induction cs with
  | nil => rfl
  | cons c cs ih =>
    rw [List.flatMap_cons, List.length_append, String.length_utf8EncodeChar, ih, byteLength_cons]

/-- The byte at a good place is the first one of what is behind it. -/
theorem byteAt?_of_suffixAt (h : suffixAt cs place = some rest) :
    byteAt? cs place = byteAt? rest 0 := by
  obtain ⟨front, rfl, rfl⟩ := suffixAt_eq_some_iff.mp h
  rw [byteAt?, byteAt?, List.flatMap_append, ← length_flatMap_utf8EncodeChar,
    List.getElem?_append_right le_rfl, Nat.sub_self]

/-- A closing parenthesis is the only character that starts with its byte: what takes more than one
byte starts with a greater one. -/
theorem head?_utf8EncodeChar_eq_close_iff (c : Char) :
    (String.utf8EncodeChar c).head? = some closeByte ↔ c = ')' := by
  constructor
  · intro h
    rw [String.utf8EncodeChar, closeByte] at h
    simp only [apply_ite List.head?, List.head?_cons, ← apply_ite some, Option.some.injEq,
      ← UInt8.toNat_inj, apply_ite UInt8.toNat, UInt8.toNat_ofNat', UInt8.reduceToNat,
      Char.toNat_val] at h
    -- one case for each number of bytes; only a single byte can be as small as this one
    have hcode : c.toNat = ')'.toNat := by
      show c.toNat = 41
      split_ifs at h
      all_goals omega
    exact Char.toNat_inj.mp hcode
  · rintro rfl
    rfl

/-- At a good place there is no byte just if nothing is behind it. -/
theorem byteAt?_eq_none_iff (h : suffixAt cs place = some rest) :
    byteAt? cs place = none ↔ rest = [] := by
  rw [byteAt?_of_suffixAt h, byteAt?, List.getElem?_eq_none_iff, length_flatMap_utf8EncodeChar]
  cases rest with
  | nil => simp
  | cons c rest =>
    have hpos := c.utf8Size_pos
    simp only [byteLength_cons, reduceCtorEq, iff_false]
    omega

/-- At a good place, the byte of a closing parenthesis is one. -/
theorem byteAt?_eq_close_iff (h : suffixAt cs place = some rest) :
    byteAt? cs place = some closeByte ↔ ∃ back, rest = ')' :: back := by
  rw [byteAt?_of_suffixAt h, byteAt?]
  cases rest with
  | nil => simp
  | cons c rest =>
    -- the byte at the start of a text is the first one of its first character
    have hhead : ((c :: rest).flatMap String.utf8EncodeChar)[0]? =
        (String.utf8EncodeChar c).head? := by
      rw [List.flatMap_cons, ← List.head?_eq_getElem?, List.head?_append_of_ne_nil _
        (String.utf8EncodeChar_ne_nil)]
    rw [hhead, head?_utf8EncodeChar_eq_close_iff]
    constructor
    · rintro rfl
      exact ⟨rest, rfl⟩
    · rintro ⟨back, hs⟩
      exact (List.cons.inj hs).1

-- ---------------------------------------------------------------------------
-- The first of a character, and what is between two places
-- ---------------------------------------------------------------------------

/-- A character that a text does not have has no place in it. -/
theorem firstPlace?_of_notMem {x : Char} (h : x ∉ cs) : firstPlace? x cs = none := if_neg h

/-- The first place of a character is behind what has none of it. -/
theorem firstPlace?_of_append {x : Char} (h : x ∉ front) :
    firstPlace? x (front ++ x :: back) = some (byteLength front) := by
  have hbefore : ∀ c ∈ front, (c != x) = true := by
    intro c hc
    rw [bne_iff_ne]
    rintro rfl
    exact h hc
  rw [firstPlace?, if_pos (by simp), List.takeWhile_append_of_pos hbefore,
    List.takeWhile_cons_of_neg (by simp), List.append_nil]

/-- The text between two good places. -/
theorem slice?_of_append (before middle back : List Char) :
    slice? (before ++ (middle ++ back)) (byteLength before) (byteLength (before ++ middle)) =
      some middle := by
  have hlast : suffixAt (before ++ (middle ++ back)) (byteLength (before ++ middle)) =
      some back := by
    rw [← List.append_assoc]
    exact suffixAt_append _ _
  have hle : byteLength before ≤ byteLength (before ++ middle) := by
    rw [byteLength_append]
    exact Nat.le_add_right _ _
  rw [slice?, suffixAt_append, hlast]
  simp only [if_pos hle, List.length_append, Nat.add_sub_cancel, List.take_left]

end UserDirectory.Text
