import UserDirectory.Proofs.Regex.Reading

/-!
# UserDirectory — what escapes take

An escape takes the character behind its backslash, and some take hexadecimal digits or a letter
behind that. Where no braces follow, it takes nothing that could be the start of another escape and
no dot.

## Results

* `runsOver_of_escapeAt` — what an escape takes behind its first character.
-/

namespace UserDirectory.Regex

open Text

/-- Whether the rest is what is left of a text behind characters that are no backslashes and no
dots. -/
def RunsOver (s rest : List Char) : Prop := ∃ taken, s = taken ++ rest ∧ '\\' ∉ taken ∧ '.' ∉ taken

theorem RunsOver.refl (s : List Char) : RunsOver s s := ⟨[], rfl, by simp, by simp⟩

theorem RunsOver.cons {c : Char} {s rest : List Char} (hslash : c ≠ '\\') (hdot : c ≠ '.')
    (h : RunsOver s rest) : RunsOver (c :: s) rest := by
  obtain ⟨taken, rfl, htaken, htaken'⟩ := h
  exact ⟨c :: taken, rfl, by simp [hslash.symm, htaken], by simp [hdot.symm, htaken']⟩

/-- Hexadecimal digits are no backslashes and no dots. -/
theorem runsOver_of_hexDigits {value count : Nat} {s : List Char} {read : Nat × Tail s}
    (h : hexDigits {} value count s = some read) : RunsOver s read.2.1 := by
  induction count generalizing value s with
  | zero =>
    cases h
    exact .refl s
  | succ count ih =>
    cases s with
    | nil => contradiction
    | cons c s =>
      rw [hexDigits] at h
      split at h
      · contradiction
      · next d hd =>
        dsimp only at h
        split at h
        · contradiction
        · next n r hread =>
          cases h
          have hslash : c ≠ '\\' := by
            rintro rfl
            contradiction
          have hdot : c ≠ '.' := by
            rintro rfl
            contradiction
          exact .cons hslash hdot (ih hread)

/-- An escape with hexadecimal digits runs over them. -/
theorem runsOver_of_hexEscape {count : Nat} {s : List Char} {read : Char × Tail s}
    (hbrace : s.head? ≠ some '\x7b') (h : hexEscape {} count s = some read) :
    RunsOver s read.2.1 := by
  rw [hexEscape] at h
  split at h
  · next cs heq =>
    have hs : s = '\x7b' :: cs := heq
    rw [hs] at hbrace
    contradiction
  · split at h
    · contradiction
    · next n r hdigits =>
      obtain ⟨c, -, rfl⟩ := Option.map_eq_some_iff.mp h
      exact runsOver_of_hexDigits hdigits

/-- Without braces a property is a single letter. -/
theorem runsOver_of_propertyEscape {s : List Char} {read : CharSet × Tail s}
    (hbrace : s.head? ≠ some '\x7b') (h : propertyEscape {} s = some read) :
    RunsOver s read.2.1 := by
  rw [propertyEscape.eq_def] at h
  dsimp only [skip_default, Tail.whole] at h
  split at h
  · contradiction
  · split at h
    · contradiction
    · next heq =>
      cases heq
      contradiction
    · next c cs hlen hnot heq =>
      cases heq
      obtain ⟨hslash, h⟩ := Option.ite_none_left_eq_some.mp h
      obtain ⟨ranges, hset, rfl⟩ := Option.map_eq_some_iff.mp h
      have hdot : c ≠ '.' := by
        rintro rfl
        have hnone : namedSet? ['.'] = none := rfl
        rw [hnone] at hset
        contradiction
      exact .cons hslash hdot (.refl cs)

/-- A boundary takes nothing behind its letter if no brace follows. -/
theorem runsOver_of_boundaryEscape {s : List Char} {read : WordEdge × Tail s}
    (hbrace : s.head? ≠ some '\x7b') (h : boundaryEscape {} s = some read) :
    RunsOver s read.2.1 := by
  rw [boundaryEscape.eq_def] at h
  split at h
  · contradiction
  · cases h
    exact .refl _

/-- Behind its first character, an escape takes no backslash and no dot, if no brace follows. -/
theorem runsOver_of_escapeAt {c : Char} {s : List Char} {read : Primitive × Rest (c :: s)}
    (hbrace : s.head? ≠ some '\x7b') (h : escapeAt {} (c :: s) = some read) :
    RunsOver s read.2.1 := by
  rw [escapeAt.eq_def] at h
  dsimp only at h
  split at h
  case h_1 =>
    split at h
    · contradiction
    · next d t hhex =>
      obtain ⟨p, -, rfl⟩ := Option.map_eq_some_iff.mp h
      exact runsOver_of_hexEscape hbrace hhex
  case h_2 =>
    obtain ⟨⟨d, t⟩, hhex, rfl⟩ := Option.map_eq_some_iff.mp h
    exact runsOver_of_hexEscape hbrace hhex
  case h_3 =>
    obtain ⟨⟨cls, t⟩, hproperty, rfl⟩ := Option.map_eq_some_iff.mp h
    exact runsOver_of_propertyEscape hbrace hproperty
  case h_14 =>
    obtain ⟨⟨edge, t⟩, hboundary, rfl⟩ := Option.map_eq_some_iff.mp h
    exact runsOver_of_boundaryEscape hbrace hboundary
  case h_17 =>
    obtain ⟨-, heq⟩ := Option.ite_none_right_eq_some.mp h
    cases heq
    exact .refl s
  -- an escape of one letter takes nothing more
  all_goals
    cases h
    exact .refl s

end UserDirectory.Regex
