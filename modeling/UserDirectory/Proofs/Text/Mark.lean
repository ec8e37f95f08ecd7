import UserDirectory.Text.LowerCase

/-!
# UserDirectory — characters without case

Lower-casing leaves parentheses, commas and the like alone, and makes none of them out of something
else. So a text has the same ones before and after it.

## Results

* `mem_lowerFrom_iff`   — a character without case is in the lower-cased text if it was before.
* `head?_lowerFrom_iff` — it comes first in the lower-cased text if it did before.
-/

namespace UserDirectory.Text

/-- A run that holds one code point. -/
def Run.only (n : Nat) : Run := ⟨n, n, 1, 0⟩

/-- Whether lower-casing leaves the character alone and makes it out of no other one. -/
def isCaseless (x : Char) : Bool :=
  !(['İ', 'i', '\u0307', 'Σ', 'σ', 'ς'].contains x) &&
    lowerRuns.all fun r => !r.holds x.toNat && r.avoids (.only x.toNat)

theorem Run.holds_only_self (n : Nat) : (Run.only n).holds n = true := by
  simp [Run.holds, Run.only]

/-- Where a character is not left alone, some run moves it. -/
theorem toNat_of_mem_lowerChar {c d : Char} (hc : c ≠ 'İ') (hd : d ∈ lowerChar c) :
    d = c ∨ ∃ r ∈ lowerRuns, r.holds c.toNat = true ∧ d.toNat = r.move c.toNat := by
  rw [lowerChar, if_neg hc, List.mem_singleton] at hd
  rcases shiftBy_eq_self_or lowerRuns c.toNat with hs | ⟨r, hr, hh, hs⟩
  · rw [hs, Char.ofNat_toNat] at hd
    exact .inl hd
  · have hall := lowerRuns_avoid
    simp only [List.all_eq_true, Bool.and_eq_true] at hall
    have hvalid := Run.isValidChar_move (hall r hr).1.1 hh
    refine .inr ⟨r, hr, hh, ?_⟩
    rw [hd, hs, Char.ofNat, dif_pos hvalid]
    rfl

theorem lowerFrom_cons {c : Char} (hc : c ≠ 'Σ') (before after : List Char) :
    lowerFrom before (c :: after) = lowerChar c ++ lowerFrom (c :: before) after := by
  rw [lowerFrom]
  exact fun h => hc h

theorem lowerChar_ne_nil (c : Char) : lowerChar c ≠ [] := by
  rw [lowerChar]
  split
  · exact List.cons_ne_nil _ _
  · exact List.cons_ne_nil _ _

section

variable {x : Char} (hx : isCaseless x = true)

include hx

/-- A character without case is none of those that the tables of runs leave out. -/
theorem ne_of_isCaseless {y : Char} (hy : y ∈ ['İ', 'i', '\u0307', 'Σ', 'σ', 'ς']) : y ≠ x := by
  rintro rfl
  rw [isCaseless, Bool.and_eq_true, Bool.not_eq_true'] at hx
  rw [List.contains_iff_mem.mpr hy] at hx
  exact absurd hx.1 (by decide)

/-- No run moves a character without case, and none moves anything onto it. -/
theorem avoids_of_isCaseless {r : Run} (hr : r ∈ lowerRuns) :
    r.holds x.toNat = false ∧ r.avoids (.only x.toNat) = true := by
  rw [isCaseless, Bool.and_eq_true, List.all_eq_true] at hx
  have h := hx.2 r hr
  rwa [Bool.and_eq_true, Bool.not_eq_true'] at h

/-- Lower-casing leaves a character without case alone. -/
theorem lowerChar_of_isCaseless : lowerChar x = [x] := by
  have hdotted : x ≠ 'İ' := (ne_of_isCaseless hx (by decide)).symm
  rw [lowerChar, if_neg hdotted, shiftBy_of_not_holds fun r hr => (avoids_of_isCaseless hx hr).1,
    Char.ofNat_toNat]

/-- Lower-casing makes a character without case out of no other one. -/
theorem mem_lowerChar_iff {c : Char} : x ∈ lowerChar c ↔ c = x := by
  constructor
  · intro hc
    by_cases hdotted : c = 'İ'
    · rw [lowerChar, if_pos hdotted, List.mem_cons, List.mem_singleton] at hc
      rcases hc with rfl | rfl
      · exact absurd rfl (ne_of_isCaseless hx (by decide))
      · exact absurd rfl (ne_of_isCaseless hx (by decide))
    · rcases toNat_of_mem_lowerChar hdotted hc with h | ⟨r, hr, hh, h⟩
      · exact h.symm
      · have hfree := Run.holds_move_of_avoids (avoids_of_isCaseless hx hr).2 hh
        rw [← h, Run.holds_only_self] at hfree
        contradiction
  · rintro rfl
    rw [lowerChar_of_isCaseless hx]
    exact List.mem_singleton_self _

/-- A sigma stays a letter, whatever form it takes. -/
theorem ne_sigma (before after : List Char) : (if isFinal before after then 'ς' else 'σ') ≠ x := by
  split
  · exact ne_of_isCaseless hx (by decide)
  · exact ne_of_isCaseless hx (by decide)

/-- A character without case is in the lower-cased text if it was before. -/
theorem mem_lowerFrom_iff {before cs : List Char} : x ∈ lowerFrom before cs ↔ x ∈ cs := by
  fun_induction lowerFrom before cs with
  | case1 => simp
  | case2 before after ih =>
    have h1 : x ≠ 'Σ' := (ne_of_isCaseless hx (by decide)).symm
    have h2 := (ne_sigma hx before after).symm
    simp only [List.mem_cons, h1, h2, ih]
  | case3 before c after hc ih =>
    rw [List.mem_append, List.mem_cons, mem_lowerChar_iff hx, ih, eq_comm]

/-- A character without case comes first in the lower-cased text if it did before. -/
theorem head?_lowerFrom_iff {before cs : List Char} :
    (lowerFrom before cs).head? = some x ↔ cs.head? = some x := by
  match cs with
  | [] => rw [lowerFrom]
  | c :: after =>
    rw [List.head?_cons, Option.some.injEq]
    -- neither form of a sigma is a mark
    by_cases hc : c = 'Σ'
    · subst hc
      have h1 : 'Σ' ≠ x := ne_of_isCaseless hx (by decide)
      rw [lowerFrom, List.head?_cons, Option.some.injEq]
      exact ⟨fun h => absurd h (ne_sigma hx before after), fun h => absurd h h1⟩
    · rw [lowerFrom]
      · obtain ⟨d, ds, hd⟩ := List.exists_cons_of_ne_nil (lowerChar_ne_nil c)
        rw [hd, List.cons_append, List.head?_cons, Option.some.injEq]
        constructor
        · rintro rfl
          exact (mem_lowerChar_iff hx).mp (hd ▸ List.mem_cons_self)
        · rintro rfl
          rw [lowerChar_of_isCaseless hx] at hd
          exact (List.cons.inj hd).1.symm
      · exact fun h => hc h

end

theorem lowerFrom_ne_nil {before cs : List Char} (h : cs ≠ []) : lowerFrom before cs ≠ [] := by
  fun_cases lowerFrom before cs with
  | case1 => exact absurd rfl h
  | case2 => exact List.cons_ne_nil _ _
  | case3 => exact fun he => lowerChar_ne_nil _ (List.append_eq_nil_iff.mp he).1

end UserDirectory.Text
