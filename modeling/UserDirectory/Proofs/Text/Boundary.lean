import Mathlib.Data.List.DropRight
import UserDirectory.Proofs.Text.Surroundings
import UserDirectory.Text.Basic

/-!
# UserDirectory — where a text may be cut

The lower-case form of a sigma depends on the text around it, so a text in lower case is not, in
general, made of the lower-case forms of its pieces. It is if the pieces meet at a character that
ends a word: one without case that the search for a neighbouring letter does not pass over.
Parentheses, `=`, commas and blanks are such boundaries.

## Results

* `lowerFrom_append_cons`      — a text may be lower-cased on both sides of a boundary apart.
* `exists_of_lowerFrom_eq`     — where lower-cased text has a boundary, the text had it before.
* `trimChars_lowerChars`       — blanks may be dropped before or after lower-casing.
-/

namespace UserDirectory.Text

/-- Whether the character ends a word, in lower case or not. -/
def isBoundary (x : Char) : Bool := isCaseless x && !isCased x && !isCaseIgnorable x

theorem lowerChars_nil : lowerChars [] = [] := by
  rw [lowerChars, lowerFrom]

/-- Only the empty text is nothing in lower case. -/
theorem lowerFrom_eq_nil_iff {before cs : List Char} : lowerFrom before cs = [] ↔ cs = [] := by
  constructor
  · intro h
    by_contra hne
    exact lowerFrom_ne_nil hne h
  · rintro rfl
    rw [lowerFrom]

theorem lowerChars_toList_eq_nil_iff {s : String} : lowerChars s.toList = [] ↔ s = "" := by
  rw [lowerChars, lowerFrom_eq_nil_iff, String.toList_eq_nil_iff]

section

variable {x : Char} (hx : isBoundary x = true)

include hx

theorem isCaseless_of_isBoundary : isCaseless x = true := by
  rw [isBoundary, Bool.and_eq_true, Bool.and_eq_true] at hx
  exact hx.1.1

/-- A boundary occurs in lower case if and only if it did before. -/
theorem mem_lowerChars_iff {cs : List Char} : x ∈ lowerChars cs ↔ x ∈ cs :=
  mem_lowerFrom_iff (isCaseless_of_isBoundary hx)

-- ---------------------------------------------------------------------------
-- What lies beyond a boundary does not count
-- ---------------------------------------------------------------------------

/-- The search for a neighbouring letter ends at a boundary. -/
theorem startsCased_append_cons (a b : List Char) : startsCased (a ++ x :: b) = startsCased a := by
  simp only [isBoundary, Bool.and_eq_true, Bool.not_eq_true'] at hx
  obtain ⟨⟨-, hcased⟩, hignorable⟩ := hx
  rw [startsCased_append, startsCased_cons, hignorable, hcased]
  split
  · next hall => exact (startsCased_of_all hall).symm
  · rfl

/-- What stands before a boundary makes no difference behind it. -/
theorem lowerFrom_of_append_cons (a b cs : List Char) :
    lowerFrom (a ++ x :: b) cs = lowerFrom a cs :=
  lowerFrom_congr (startsCased_append_cons hx a b) cs

/-- A text may be lower-cased on both sides of a boundary apart. -/
theorem lowerFrom_append_cons (before a b : List Char) :
    lowerFrom before (a ++ x :: b) = lowerFrom before a ++ x :: lowerChars b := by
  have hcaseless := isCaseless_of_isBoundary hx
  have hsigma : x ≠ 'Σ' := (ne_of_isCaseless hcaseless (by decide)).symm
  -- a sigma before the boundary is final if and only if it is without what follows the boundary
  have hfinal : ∀ u v, a = u ++ 'Σ' :: v → isFinal (u.reverse ++ before) (v ++ x :: b) =
      isFinal (u.reverse ++ before) (v ++ []) := by
    intro u v _
    rw [isFinal, isFinal, startsCased_append_cons hx, List.append_nil]
  obtain ⟨form, hform, halone⟩ := exists_lowerFrom_append hfinal
  have hbefore := lowerFrom_of_append_cons hx [] (a.reverse ++ before) b
  rw [List.append_nil, lowerFrom, List.append_nil] at halone
  rw [List.nil_append] at hbefore
  rw [hform, halone, lowerFrom_cons hsigma, lowerChar_of_isCaseless hcaseless, hbefore]
  rfl

/-- A text may be lower-cased on both sides of a boundary apart. -/
theorem lowerChars_append_cons (a b : List Char) :
    lowerChars (a ++ x :: b) = lowerChars a ++ x :: lowerChars b :=
  lowerFrom_append_cons hx [] a b

theorem lowerChars_cons (cs : List Char) : lowerChars (x :: cs) = x :: lowerChars cs :=
  lowerChars_append_cons hx [] cs

theorem lowerChars_concat (cs : List Char) : lowerChars (cs ++ [x]) = lowerChars cs ++ [x] :=
  lowerChars_append_cons hx cs []

theorem lowerFrom_boundary_cons (before cs : List Char) :
    lowerFrom before (x :: cs) = x :: lowerChars cs := by
  have h := lowerFrom_append_cons hx before [] cs
  rwa [lowerFrom] at h

/-- The first character of a text brings in a boundary only if it is this boundary. -/
theorem exists_lowerFrom_cons (before : List Char) (c : Char) (cs : List Char) :
    ∃ form, lowerFrom before (c :: cs) = form ++ lowerFrom (c :: before) cs ∧
      (x ∈ form → c = x) := by
  have hcaseless := isCaseless_of_isBoundary hx
  by_cases hc : c = 'Σ'
  · subst hc
    refine ⟨[if isFinal before cs then 'ς' else 'σ'], by rw [lowerFrom]; rfl, fun h => ?_⟩
    exact absurd (List.mem_singleton.mp h).symm (ne_sigma hcaseless before cs)
  · exact ⟨lowerChar c, lowerFrom_cons hc before cs, (mem_lowerChar_iff hcaseless).mp⟩

/-- The induction is on the text. A character that is no boundary makes no boundary, so the one that
is looked for comes later. -/
theorem exists_back_of_lowerFrom_eq {before cs a b : List Char}
    (h : lowerFrom before cs = a ++ x :: b) :
    ∃ front back, cs = front ++ x :: back ∧ lowerChars back = b := by
  induction cs generalizing before a with
  | nil =>
    rw [lowerFrom] at h
    simp at h
  | cons c cs ih =>
    by_cases hc : c = x
    · subst hc
      rw [lowerFrom_boundary_cons hx] at h
      cases a with
      | nil => exact ⟨[], cs, rfl, (List.cons.inj h).2⟩
      | cons d a =>
        obtain ⟨front, back, rfl, hback⟩ := ih (List.cons.inj h).2
        exact ⟨c :: front, back, rfl, hback⟩
    · obtain ⟨form, hform, hmem⟩ := exists_lowerFrom_cons hx before c cs
      have hx' : x ∉ form := fun hm => hc (hmem hm)
      rw [hform] at h
      -- the boundary is not in the forms of the first character, so it comes after them
      obtain ⟨a', -, hrest⟩ : ∃ a', a = form ++ a' ∧ lowerFrom (c :: before) cs = a' ++ x :: b := by
        rcases List.append_eq_append_iff.mp h with ⟨a', ha, hrest⟩ | ⟨d, hd, hrest⟩
        · exact ⟨a', ha, hrest⟩
        · cases d with
          | nil => exact ⟨[], by simpa using hd.symm, hrest.symm⟩
          | cons y d =>
            rw [← (List.cons.inj hrest).1] at hd
            exact absurd (by simp [hd]) hx'
      obtain ⟨front, back, rfl, hback⟩ := ih hrest
      exact ⟨c :: front, back, rfl, hback⟩

/-- Where lower-cased text has a boundary, the text had it before. -/
theorem exists_of_lowerFrom_eq {before cs a b : List Char}
    (h : lowerFrom before cs = a ++ x :: b) :
    ∃ front back, cs = front ++ x :: back ∧ lowerFrom before front = a ∧ lowerChars back = b := by
  obtain ⟨front, back, rfl, rfl⟩ := exists_back_of_lowerFrom_eq hx h
  rw [lowerFrom_append_cons hx] at h
  exact ⟨front, back, rfl, List.append_cancel_right h, rfl⟩

/-- A text in lower case has a boundary where the text had it, with the pieces in lower case. -/
theorem lowerChars_eq_append_cons_iff {cs a b : List Char} :
    lowerChars cs = a ++ x :: b ↔
      ∃ front back, cs = front ++ x :: back ∧ lowerChars front = a ∧ lowerChars back = b := by
  constructor
  · exact exists_of_lowerFrom_eq hx
  · rintro ⟨front, back, rfl, rfl, rfl⟩
    exact lowerChars_append_cons hx front back

/-- A boundary comes first in lower case if it did before. -/
theorem lowerChars_eq_cons_iff {cs b : List Char} :
    lowerChars cs = x :: b ↔ ∃ back, cs = x :: back ∧ lowerChars back = b := by
  constructor
  · intro h
    obtain ⟨front, back, rfl, hfront, hback⟩ := exists_of_lowerFrom_eq (a := []) hx h
    rw [lowerFrom_eq_nil_iff] at hfront
    subst hfront
    exact ⟨back, rfl, hback⟩
  · rintro ⟨back, rfl, rfl⟩
    exact lowerChars_cons hx back

/-- No boundary comes first in lower case that did not before. -/
theorem lowerChars_ne_cons {cs : List Char} (h : ∀ back, cs ≠ x :: back) (b : List Char) :
    lowerChars cs ≠ x :: b := by
  intro hlower
  obtain ⟨back, hcs, -⟩ := (lowerChars_eq_cons_iff hx).mp hlower
  exact h back hcs

/-- A boundary comes last in lower case if it did before. -/
theorem lowerChars_eq_concat_iff {cs a : List Char} :
    lowerChars cs = a ++ [x] ↔ ∃ front, cs = front ++ [x] ∧ lowerChars front = a := by
  constructor
  · intro h
    obtain ⟨front, back, rfl, hfront, hback⟩ := exists_of_lowerFrom_eq hx h
    rw [lowerChars, lowerFrom_eq_nil_iff] at hback
    subst hback
    exact ⟨front, rfl, hfront⟩
  · rintro ⟨front, rfl, rfl⟩
    exact lowerChars_concat hx front

end

-- ---------------------------------------------------------------------------
-- Blanks
-- ---------------------------------------------------------------------------

/-- Whether the ends of the runs in the tables of letter case all lie on one side of the code points
from `lo` to `hi`. -/
def isClear (lo hi : Nat) : Bool :=
  (lowerRuns.all fun r =>
    (r.last < lo || hi < r.first) && (r.move r.last < lo || hi < r.move r.first)) &&
  (['İ', 'i', '\u0307', 'Σ', 'σ', 'ς'].all fun c => c.toNat < lo || hi < c.toNat) &&
  (casedRanges.all fun (first, last) => last < lo || hi < first) &&
  caseIgnorableRanges.all fun (first, last) => last < lo || hi < first

/-- A character apart from all ranges is in none of them. -/
theorem inRanges_of_apart {ranges : List (Nat × Nat)} {lo hi : Nat} {c : Char}
    (h : ∀ range ∈ ranges, range.2 < lo ∨ hi < range.1) (hlo : lo ≤ c.toNat)
    (hhi : c.toNat ≤ hi) : inRanges ranges c = false := by
  rw [inRanges, List.any_eq_false]
  intro range hmem
  have hapart := h range hmem
  simp only [Bool.and_eq_true, decide_eq_true_eq]
  omega

/-- Characters between code points that the tables of letter case leave out end words. -/
theorem isBoundary_of_isClear {lo hi : Nat} (h : isClear lo hi = true) {x : Char}
    (hlo : lo ≤ x.toNat) (hhi : x.toNat ≤ hi) : isBoundary x = true := by
  simp only [isClear, Bool.and_eq_true, List.all_eq_true, Bool.or_eq_true,
    decide_eq_true_eq] at h
  obtain ⟨⟨⟨hruns, hspecial⟩, hcased⟩, hignorable⟩ := h
  -- no run that is moved by lower-casing holds the code, and none of them leads to it
  have hcaseless : isCaseless x = true := by
    rw [isCaseless, Bool.and_eq_true, Bool.not_eq_true', List.all_eq_true]
    refine ⟨?_, fun r hr => ?_⟩
    · rw [← Bool.not_eq_true, List.contains_iff_mem]
      intro hmem
      have hapart := hspecial x hmem
      omega
    · obtain ⟨hheld, hmoved⟩ := hruns r hr
      have hfree : r.holds x.toNat = false := by
        rw [← Bool.not_eq_true]
        intro hholds
        have := Run.first_le_of_holds hholds
        omega
      have havoids : r.avoids (.only x.toNat) = true := by
        rw [Run.avoids, Bool.or_eq_true, Bool.or_eq_true, decide_eq_true_eq, decide_eq_true_eq]
        simp only [Run.only]
        omega
      rw [hfree, havoids]
      rfl
  rw [isBoundary, hcaseless, isCased, isCaseIgnorable, inRanges_of_apart hcased hlo hhi,
    inRanges_of_apart hignorable hlo hhi]
  rfl

/-- Blanks end words: the tables of letter case leave them out. -/
theorem isBoundary_of_isBlank {c : Char} (h : isBlank c = true) : isBoundary c = true := by
  have hclear : (blankRanges.all fun (lo, hi) => isClear lo hi) = true := by decide +kernel
  simp only [isBlank, List.any_eq_true, Bool.and_eq_true, decide_eq_true_eq] at h
  obtain ⟨range, hmem, hlo, hhi⟩ := h
  exact isBoundary_of_isClear (List.all_eq_true.mp hclear range hmem) hlo hhi

/-- Blanks in front may be dropped before or after lower-casing. -/
theorem dropWhile_isBlank_lowerChars (cs : List Char) :
    (lowerChars cs).dropWhile isBlank = lowerChars (cs.dropWhile isBlank) := by
  induction cs with
  | nil => rfl
  | cons c cs ih =>
    by_cases hc : isBlank c = true
    · rw [lowerChars_cons (isBoundary_of_isBlank hc), List.dropWhile_cons_of_pos hc, ih,
        List.dropWhile_cons_of_pos hc]
    -- a blank in front of the lower-case form would have been there before
    · rw [List.dropWhile_cons_of_neg hc, List.dropWhile_eq_self_iff]
      intro hlen hblank
      obtain ⟨d, ds, hd⟩ := List.exists_cons_of_length_pos hlen
      simp only [hd, List.getElem_cons_zero] at hblank
      obtain ⟨back, hcs, -⟩ := (lowerChars_eq_cons_iff (isBoundary_of_isBlank hblank)).mp hd
      rw [(List.cons.inj hcs).1] at hc
      exact hc hblank

/-- Blanks at the end may be dropped before or after lower-casing. -/
theorem rdropWhile_isBlank_lowerChars (cs : List Char) :
    (lowerChars cs).rdropWhile isBlank = lowerChars (cs.rdropWhile isBlank) := by
  induction cs using List.reverseRecOn with
  | nil => rfl
  | append_singleton cs c ih =>
    by_cases hc : isBlank c = true
    · rw [lowerChars_concat (isBoundary_of_isBlank hc), List.rdropWhile_concat_pos _ _ _ hc, ih,
        List.rdropWhile_concat_pos _ _ _ hc]
    · rw [List.rdropWhile_concat_neg _ _ _ hc, List.rdropWhile_eq_self_iff]
      intro hne hblank
      obtain ⟨front, hcs, -⟩ := (lowerChars_eq_concat_iff (isBoundary_of_isBlank hblank)).mp
        (List.dropLast_append_getLast hne).symm
      have hlast := (List.append_inj' hcs rfl).2
      rw [List.singleton_inj.mp hlast] at hc
      exact hc hblank

/-- Blanks may be dropped before or after lower-casing. -/
theorem trimChars_lowerChars (cs : List Char) :
    trimChars (lowerChars cs) = lowerChars (trimChars cs) := by
  show ((lowerChars cs).dropWhile isBlank).rdropWhile isBlank = _
  rw [dropWhile_isBlank_lowerChars, rdropWhile_isBlank_lowerChars]
  rfl

end UserDirectory.Text
