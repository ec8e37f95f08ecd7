import UserDirectory.Proofs.Text.Mark

/-!
# UserDirectory — text in its surroundings

A part of a text may be lower-cased otherwise than on its own, but only where it has a capital
sigma. What comes before the part matters only as to whether the last character of it that counts is
a letter with case, and what comes after it as to whether the first one is. So the form of a sigma
is settled by the part alone if there are characters that count on both sides of the sigma, or if
those on one side already rule out the end of a word.

## Results

* `exists_lowerFrom_append`    — a part has the same form in two texts if its sigmas have.
* `settled_iff_forall_isInfix` — a part is found in lower case in every text around it if and only if
  its sigmas are settled.
-/

namespace UserDirectory.Text

-- ---------------------------------------------------------------------------
-- The first character that counts
-- ---------------------------------------------------------------------------

/-- The search passes over a character that does not count, and ends at any other one. -/
theorem startsCased_cons (c : Char) (cs : List Char) :
    startsCased (c :: cs) = if isCaseIgnorable c then startsCased cs else isCased c := by
  by_cases hc : isCaseIgnorable c = true
  · simp [startsCased, hc]
  · simp [startsCased, hc]

/-- Where something counts, what comes behind it does not. -/
theorem startsCased_append (a b : List Char) :
    startsCased (a ++ b) = if a.all isCaseIgnorable then startsCased b else startsCased a := by
  induction a with
  | nil => rfl
  | cons c a ih =>
    rw [List.cons_append, startsCased_cons, startsCased_cons, ih, List.all_cons]
    by_cases hc : isCaseIgnorable c = true
    · simp [hc]
    · simp [hc]

theorem startsCased_of_all {a : List Char} (h : a.all isCaseIgnorable = true) :
    startsCased a = false := by
  have hnone := startsCased_append a []
  rwa [List.append_nil, if_pos h] at hnone

/-- A sigma is a letter, so the search ends there. -/
theorem startsCased_sigma_cons (cs : List Char) : startsCased ('Σ' :: cs) = true := by
  have hcounts : isCaseIgnorable 'Σ' = false := by decide +kernel
  have hcased : isCased 'Σ' = true := by decide +kernel
  rw [startsCased_cons, hcounts, hcased]
  rfl

/-- Characters that do not count are no sigmas. -/
theorem not_mem_of_all {a : List Char} (h : a.all isCaseIgnorable = true) : 'Σ' ∉ a := by
  intro hmem
  have hcounts : isCaseIgnorable 'Σ' = false := by decide +kernel
  rw [List.all_eq_true.mp h 'Σ' hmem] at hcounts
  contradiction

-- ---------------------------------------------------------------------------
-- A part of two texts
-- ---------------------------------------------------------------------------

/-- A part has the same form in two texts if each of its sigmas ends a word in both or in none. -/
theorem exists_lowerFrom_append {before before' cs after after' : List Char}
    (h : ∀ u v, cs = u ++ 'Σ' :: v → isFinal (u.reverse ++ before) (v ++ after) =
      isFinal (u.reverse ++ before') (v ++ after')) :
    ∃ form, lowerFrom before (cs ++ after) = form ++ lowerFrom (cs.reverse ++ before) after ∧
      lowerFrom before' (cs ++ after') = form ++ lowerFrom (cs.reverse ++ before') after' := by
  induction cs generalizing before before' with
  | nil => exact ⟨[], rfl, rfl⟩
  | cons c cs ih =>
    have hrest : ∀ u v, cs = u ++ 'Σ' :: v → isFinal (u.reverse ++ c :: before) (v ++ after) =
        isFinal (u.reverse ++ c :: before') (v ++ after') := by
      rintro u v rfl
      simpa using h (c :: u) v rfl
    obtain ⟨form, hform, hform'⟩ := ih hrest
    rw [List.reverse_cons, List.append_assoc, List.append_assoc, List.singleton_append,
      List.singleton_append, List.cons_append, List.cons_append]
    -- only a sigma looks at what surrounds it
    by_cases hc : c = 'Σ'
    · subst hc
      have hfinal : isFinal before (cs ++ after) = isFinal before' (cs ++ after') := h [] cs rfl
      refine ⟨(if isFinal before (cs ++ after) then 'ς' else 'σ') :: form, ?_, ?_⟩
      · rw [lowerFrom, hform, List.cons_append]
      · rw [lowerFrom, hform', hfinal, List.cons_append]
    · refine ⟨lowerChar c ++ form, ?_, ?_⟩
      · rw [lowerFrom_cons hc, hform, List.append_assoc]
      · rw [lowerFrom_cons hc, hform', List.append_assoc]

/-- Of what comes before a text, only the first character that counts matters. -/
theorem lowerFrom_congr {before before' : List Char} (h : startsCased before = startsCased before')
    (cs : List Char) : lowerFrom before cs = lowerFrom before' cs := by
  have hfinal : ∀ u v, cs = u ++ 'Σ' :: v → isFinal (u.reverse ++ before) (v ++ []) =
      isFinal (u.reverse ++ before') (v ++ []) := by
    intro u v _
    rw [isFinal, isFinal, startsCased_append u.reverse before, startsCased_append u.reverse before',
      h]
  obtain ⟨form, hform, hform'⟩ := exists_lowerFrom_append hfinal
  rw [List.append_nil, lowerFrom] at hform hform'
  rw [hform, hform']

-- ---------------------------------------------------------------------------
-- A part whose sigmas are settled
-- ---------------------------------------------------------------------------

/-- Whether it is settled by the text alone which of its sigmas end a word. Where nothing counts
before a sigma, a letter has to come after it, so that it ends no word whatever is before the text.
Where nothing counts after it, no letter may come before. -/
def Settled (cs : List Char) : Prop :=
  ∀ u v, cs = u ++ 'Σ' :: v →
    (u.all isCaseIgnorable = true → startsCased v = true) ∧
      (v.all isCaseIgnorable = true → startsCased u.reverse = false)

/-- Whether a text is settled can be told by looking at each of its sigmas. -/
theorem settled_iff {cs : List Char} :
    Settled cs ↔ ∀ i < cs.length, cs[i]? = some 'Σ' →
      ((cs.take i).all isCaseIgnorable = true → startsCased (cs.drop (i + 1)) = true) ∧
        ((cs.drop (i + 1)).all isCaseIgnorable = true →
          startsCased (cs.take i).reverse = false) := by
  constructor
  · intro h i hi hsigma
    refine h _ _ ?_
    have hget : cs[i] = 'Σ' := by simpa [hi] using hsigma
    rw [← hget, ← List.drop_eq_getElem_cons hi, List.take_append_drop]
  · rintro h u v rfl
    simpa using h u.length (by simp) (by simp)

instance (cs : List Char) : Decidable (Settled cs) := decidable_of_iff _ settled_iff.symm

theorem settled_of_not_mem {cs : List Char} (h : 'Σ' ∉ cs) : Settled cs := by
  rintro u v rfl
  exact absurd (List.mem_append_right u List.mem_cons_self) h

/-- A sigma of a settled text ends a word in any surroundings or in none. -/
theorem Settled.isFinal_append {u v : List Char} (h : Settled (u ++ 'Σ' :: v))
    (before after : List Char) :
    isFinal (u.reverse ++ before) (v ++ after) = isFinal u.reverse v := by
  obtain ⟨hbefore, hafter⟩ := h u v rfl
  rw [isFinal, isFinal, startsCased_append, startsCased_append, List.all_reverse]
  -- a side on which something counts decides for itself; if nothing counts on one side, the other
  -- one rules
  by_cases hu : u.all isCaseIgnorable = true
  · have hv : v.all isCaseIgnorable = false := by
      rw [← Bool.not_eq_true]
      intro hv
      exact Bool.false_ne_true ((startsCased_of_all hv).symm.trans (hbefore hu))
    simp [hv, hbefore hu]
  · by_cases hv : v.all isCaseIgnorable = true
    · simp [hu, hafter hv]
    · simp [hu, hv]

/-- A settled part is lower-cased as on its own. -/
theorem Settled.lowerFrom_append {cs : List Char} (h : Settled cs) (before after : List Char) :
    lowerFrom before (cs ++ after) = lowerChars cs ++ lowerFrom (cs.reverse ++ before) after := by
  have hfinal : ∀ u v, cs = u ++ 'Σ' :: v → isFinal (u.reverse ++ before) (v ++ after) =
      isFinal (u.reverse ++ []) (v ++ []) := by
    rintro u v rfl
    rw [h.isFinal_append, List.append_nil, List.append_nil]
  obtain ⟨form, hform, halone⟩ := exists_lowerFrom_append hfinal
  rw [List.append_nil, lowerFrom, List.append_nil] at halone
  rw [hform, lowerChars, halone]

/-- A settled part is found in lower case, whatever is around it. -/
theorem Settled.isInfix {cs : List Char} (h : Settled cs) (a b : List Char) :
    lowerChars cs <:+: lowerChars (a ++ cs ++ b) := by
  have hfront : ∃ form, lowerFrom [] (a ++ (cs ++ b)) =
      form ++ lowerFrom (a.reverse ++ []) (cs ++ b) := by
    obtain ⟨form, hform, -⟩ := exists_lowerFrom_append fun _ _ _ => rfl
    exact ⟨form, hform⟩
  obtain ⟨form, hform⟩ := hfront
  rw [List.append_assoc, lowerChars, lowerChars, hform, h.lowerFrom_append, ← List.append_assoc]
  exact List.infix_append _ _ _

-- ---------------------------------------------------------------------------
-- A part with a sigma that is not settled
-- ---------------------------------------------------------------------------

/-- A text with more of a character is not found in one with less of it. -/
theorem not_isInfix_of_count_lt {a b : List Char} (x : Char) (h : b.count x < a.count x) :
    ¬ a <:+: b :=
  fun hfound => absurd (hfound.sublist.count_le x) (Nat.not_le_of_lt h)

theorem startsCased_letter : startsCased ['A'] = true := by decide +kernel

theorem lowerChar_letter : lowerChar 'A' = ['a'] := by decide +kernel

section

variable {u v : List Char}

/-- After a letter, a sigma at the front of a text may end a word. The text has one `σ` less then,
as the sigmas behind this one come after a sigma in any case. -/
theorem not_isInfix_letter_append (hu : u.all isCaseIgnorable = true)
    (hv : startsCased v = false) :
    ¬ lowerChars (u ++ 'Σ' :: v) <:+: lowerChars (['A'] ++ (u ++ 'Σ' :: v)) := by
  have hnone : ∀ w w', u = w ++ 'Σ' :: w' → isFinal (w.reverse ++ []) (w' ++ 'Σ' :: v) =
      isFinal (w.reverse ++ ['A']) (w' ++ 'Σ' :: v) := by
    rintro w w' rfl
    exact absurd (List.mem_append_right w List.mem_cons_self) (not_mem_of_all hu)
  obtain ⟨form, halone, hafter⟩ := exists_lowerFrom_append hnone
  have hreverse : u.reverse.all isCaseIgnorable = true := by rwa [List.all_reverse]
  -- alone it starts a word; behind the letter it ends one
  have hinner : isFinal (u.reverse ++ []) v = false := by
    rw [List.append_nil, isFinal, startsCased_of_all hreverse, Bool.false_and]
  have hfinal : isFinal (u.reverse ++ ['A']) v = true := by
    rw [isFinal, startsCased_append, if_pos hreverse, startsCased_letter, hv]
    rfl
  have hrest : lowerFrom ('Σ' :: (u.reverse ++ ['A'])) v = lowerFrom ('Σ' :: (u.reverse ++ [])) v :=
    lowerFrom_congr (by rw [startsCased_sigma_cons, startsCased_sigma_cons]) v
  rw [lowerFrom, hinner] at halone
  rw [lowerFrom, hfinal, hrest] at hafter
  rw [lowerChars, lowerChars, List.singleton_append, lowerFrom_cons (by decide), lowerChar_letter,
    halone, hafter]
  exact not_isInfix_of_count_lt 'σ' (by simp [List.count_append])

/-- Before a letter, a sigma at the back of a text does not end a word. The text has one `ς` less
then, as the sigmas in front of this one come before a sigma in any case. -/
theorem not_isInfix_append_letter (hu : startsCased u.reverse = true)
    (hv : v.all isCaseIgnorable = true) :
    ¬ lowerChars (u ++ 'Σ' :: v) <:+: lowerChars (u ++ 'Σ' :: v ++ ['A']) := by
  -- the letter at the end decides nothing for the sigmas in front, and there are none behind
  have hfront : ∀ w w', u = w ++ 'Σ' :: w' →
      isFinal (w.reverse ++ []) (w' ++ 'Σ' :: v) =
        isFinal (w.reverse ++ []) (w' ++ 'Σ' :: (v ++ ['A'])) := by
    intro w w' _
    rw [isFinal, isFinal, startsCased_append w', startsCased_append w', startsCased_sigma_cons,
      startsCased_sigma_cons]
  have hnone : ∀ w w', v = w ++ 'Σ' :: w' → isFinal (w.reverse ++ 'Σ' :: u.reverse) (w' ++ []) =
      isFinal (w.reverse ++ 'Σ' :: u.reverse) (w' ++ ['A']) := by
    rintro w w' rfl
    exact absurd (List.mem_append_right w List.mem_cons_self) (not_mem_of_all hv)
  obtain ⟨front, hfalone, hfbefore⟩ := exists_lowerFrom_append hfront
  obtain ⟨back, hbalone, hbbefore⟩ := exists_lowerFrom_append hnone
  -- at the end of a word alone, but inside of one with the letter behind it
  have hfinal : isFinal u.reverse v = true := by
    rw [isFinal, hu, startsCased_of_all hv]
    rfl
  have hinner : isFinal u.reverse (v ++ ['A']) = false := by
    rw [isFinal, startsCased_append, if_pos hv, startsCased_letter, Bool.not_true, Bool.and_false]
  rw [List.append_nil, lowerFrom, hfinal] at hfalone
  rw [List.append_nil, lowerFrom, hinner, hbbefore, lowerFrom_cons (by decide), lowerChar_letter,
    lowerFrom] at hfbefore
  rw [List.append_nil, lowerFrom, List.append_nil] at hbalone
  rw [List.append_assoc, List.cons_append, lowerChars, lowerChars, hfalone, hfbefore, hbalone]
  exact not_isInfix_of_count_lt 'ς' (by simp [List.count_append])

end

/-- A part is found in lower case in every text around it if and only if its sigmas are settled. -/
theorem settled_iff_forall_isInfix {cs : List Char} :
    Settled cs ↔ ∀ a b, lowerChars cs <:+: lowerChars (a ++ cs ++ b) := by
  refine ⟨Settled.isInfix, ?_⟩
  rintro h u v rfl
  -- a letter beside the text changes the form of a sigma that is not settled
  constructor
  · intro hu
    rw [← Bool.not_eq_false]
    intro hv
    have hletter := h ['A'] []
    rw [List.append_nil] at hletter
    exact not_isInfix_letter_append hu hv hletter
  · intro hv
    rw [← Bool.not_eq_true]
    intro hu
    exact not_isInfix_append_letter hu hv (h [] ['A'])

end UserDirectory.Text
