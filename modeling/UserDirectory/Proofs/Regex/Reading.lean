import UserDirectory.Regex.Reader

/-!
# UserDirectory — how expressions are read

An expression is read from the front: what can be repeated is put on the list of what has been read,
and a mark of repetition changes the last thing on it. There is one lemma for each way in which the
reader goes on outside of groups.

## Results

* `bodyOf_nil`          — at the end of the text.
* `bodyOf_atom`         — at something that can be repeated.
* `bodyOf_repetition`   — at a mark of repetition.
* `bodyOf_cons_eq_some` — there is no other way to go on, but at bars and parentheses.
-/

namespace UserDirectory.Regex

open Text

/-- What is read from a whole text outside of groups, behind the given alternatives and members. -/
def bodyOf (branches : List Fragment) (items : List Item) (s : List Char) : Option Fragment :=
  (bodyAt false {} branches items s).map (·.1)

/-- An expression is what is read from its text, if that is neither nested too deeply nor too large,
and names no two groups alike. -/
theorem ofText?_eq (s : List Char) :
    ofText? s = (bodyOf [] [] s).bind fun p =>
      if p.depth ≤ maxNesting ∧ p.names.Nodup ∧ p.regex.fits then some p.regex else none := by
  rw [ofText?, bodyOf]
  cases bodyAt false {} [] [] s with
  | none => rfl
  | some read => rfl

section

variable {branches : List Fragment} {items : List Item} {c : Char} {cs : List Char}

theorem skip_default (s : List Char) : Flags.skip {} s = .whole s := rfl

theorem bodyOf_nil : bodyOf branches items [] = some (closeBody (closeSeq items :: branches)) := by
  rw [bodyOf, bodyAt]
  rfl

/-- What can be repeated is put on the list of what has been read. -/
theorem bodyOf_atom (hgroup : c ∉ [')', '|', '(']) (hrep : startsRepetition c = false)
    {part : Fragment} {rest : Rest (c :: cs)} (hatom : atomAt {} (c :: cs) = some (part, rest)) :
    bodyOf branches items (c :: cs) = bodyOf branches (.part part :: items) rest.1 := by
  simp only [List.mem_cons, List.not_mem_nil, or_false, not_or] at hgroup
  obtain ⟨hclose, hbar, hopen⟩ := hgroup
  rw [bodyOf, bodyAt, bodyOf]
  simp only [skip_default, Tail.whole, hclose, hbar, hopen, hrep, hatom, if_false,
    Bool.false_eq_true]
  cases bodyAt false {} branches (.part part :: items) rest.1 with
  | none => rfl
  | some read => rfl

/-- A mark of repetition changes the last thing that has been read. -/
theorem bodyOf_repetition (hrep : startsRepetition c = true) {repetition : Repetition}
    {rest : Rest (c :: cs)} (hread : repetitionAt {} (c :: cs) = some (repetition, rest))
    {repeated : List Item} (hlast : repeatLast repetition items = some repeated) :
    bodyOf branches items (c :: cs) = bodyOf branches repeated rest.1 := by
  have hgroup : c ≠ ')' ∧ c ≠ '|' ∧ c ≠ '(' := by
    refine ⟨?_, ?_, ?_⟩ <;> rintro rfl <;> contradiction
  obtain ⟨hclose, hbar, hopen⟩ := hgroup
  rw [bodyOf, bodyAt, bodyOf]
  simp only [skip_default, Tail.whole, hclose, hbar, hopen, hrep, hread, hlast, if_false, if_true]
  cases bodyAt false {} branches repeated rest.1 with
  | none => rfl
  | some read => rfl

/-- Outside of groups and alternatives, the reader goes on at a mark of repetition or at something that
can be repeated. -/
theorem bodyOf_cons_eq_some {p : Fragment} (hbar : c ≠ '|') (hopen : c ≠ '(')
    (h : bodyOf branches items (c :: cs) = some p) :
    (startsRepetition c = true ∧ ∃ repetition rest repeated,
      repetitionAt {} (c :: cs) = some (repetition, rest) ∧
      repeatLast repetition items = some repeated ∧ bodyOf branches repeated rest.1 = some p) ∨
    (startsRepetition c = false ∧ ∃ part rest, atomAt {} (c :: cs) = some (part, rest) ∧
      bodyOf branches (.part part :: items) rest.1 = some p) := by
  by_cases hclose : c = ')'
  · subst hclose
    rw [bodyOf, bodyAt] at h
    contradiction
  have hgroup : c ∉ [')', '|', '('] := by simp [hclose, hbar, hopen]
  by_cases hrep : startsRepetition c = true
  · refine .inl ⟨hrep, ?_⟩
    -- a mark that cannot be read, or has nothing to repeat, makes the whole reading fail
    have hread : repetitionAt {} (c :: cs) ≠ none := by
      intro hnone
      rw [bodyOf, bodyAt] at h
      simp [skip_default, Tail.whole, hclose, hbar, hopen, hrep, hnone] at h
    obtain ⟨⟨repetition, rest⟩, hread⟩ := Option.ne_none_iff_exists'.mp hread
    have hlast : repeatLast repetition items ≠ none := by
      intro hnone
      rw [bodyOf, bodyAt] at h
      simp [skip_default, Tail.whole, hclose, hbar, hopen, hrep, hread, hnone] at h
    obtain ⟨repeated, hlast⟩ := Option.ne_none_iff_exists'.mp hlast
    rw [bodyOf_repetition hrep hread hlast] at h
    exact ⟨repetition, rest, repeated, hread, hlast, h⟩
  · rw [Bool.not_eq_true] at hrep
    refine .inr ⟨hrep, ?_⟩
    have hatom : atomAt {} (c :: cs) ≠ none := by
      intro hnone
      rw [bodyOf, bodyAt] at h
      simp [skip_default, Tail.whole, hclose, hbar, hopen, hrep, hnone] at h
    obtain ⟨⟨part, rest⟩, hatom⟩ := Option.ne_none_iff_exists'.mp hatom
    rw [bodyOf_atom hgroup hrep hatom] at h
    exact ⟨part, rest, hatom, h⟩

-- ---------------------------------------------------------------------------
-- Characters and marks
-- ---------------------------------------------------------------------------

/-- A character without a meaning of its own stands for itself. -/
theorem atomAt_char (hc : c ∉ ['[', '\\', '.', '^', '$']) :
    atomAt {} (c :: cs) = some ({ regex := .set (.single c) }, (Tail.whole cs).cons c) := by
  simp only [List.mem_cons, List.not_mem_nil, or_false, not_or] at hc
  obtain ⟨hclass, hescape, hdot, hstart, hend⟩ := hc
  rw [atomAt]
  · rfl
  all_goals simp_all

theorem atomAt_escapedDot :
    atomAt {} ('\\' :: '.' :: cs) =
      some ({ regex := .set (.single '.') }, ((Tail.whole cs).cons '.').cons '\\') := rfl

/-- A mark that no question mark follows takes as many turns as it can. -/
theorem repetitionAt_mark {bounds : Nat × Option Nat} (hmark : markBounds? c = some bounds)
    (hcs : ∀ back, cs ≠ '?' :: back) :
    repetitionAt {} (c :: cs) = some (⟨bounds.1, bounds.2, true⟩, (Tail.whole cs).cons c) := by
  have hbrace : c ≠ '\x7b' := by
    rintro rfl
    contradiction
  have hgreedy : greedyAt cs = (true, .whole cs) := by
    rw [greedyAt]
    exact fun back hback => hcs back hback
  rw [repetitionAt, hmark, hgreedy]
  · rfl
  · exact hbrace

theorem repetitionAt_star (hcs : ∀ back, cs ≠ '?' :: back) :
    repetitionAt {} ('*' :: cs) = some (⟨0, none, true⟩, (Tail.whole cs).cons '*') :=
  repetitionAt_mark (c := '*') rfl hcs

/-- What can be repeated takes one character, if it is neither a class nor an escape. -/
theorem rest_of_atomAt {part : Fragment} {rest : Rest (c :: cs)} (hclass : c ≠ '[')
    (hescape : c ≠ '\\') (h : atomAt {} (c :: cs) = some (part, rest)) : rest.1 = cs := by
  by_cases hc : c ∈ ['[', '\\', '.', '^', '$']
  · simp only [List.mem_cons, List.not_mem_nil, or_false, hclass, hescape, false_or] at hc
    rcases hc with rfl | rfl | rfl
    · rw [atomAt] at h
      obtain ⟨dot, -, heq⟩ := Option.map_eq_some_iff.mp h
      cases heq
      rfl
    · cases h
      rfl
    · cases h
      rfl
  · rw [atomAt_char hc] at h
    cases h
    rfl

end

end UserDirectory.Regex
