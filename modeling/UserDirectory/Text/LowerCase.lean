import UserDirectory.Text.CaseData

/-!
# UserDirectory — lower-casing

Names, patterns and values are compared without regard to letter case, so all of them are brought
to lower case first. The mapping is the full one of the Unicode standard: `İ` becomes two
characters, and a capital sigma becomes `ς` at the end of a word and `σ` elsewhere. This is the
only place where a character's surroundings matter.

Main results:

* `lowerChars_lowerChars`, `lowerCase_lowerCase` — lower-casing twice is lower-casing once;
* `lowerFrom_of_lower` — text without upper-case characters is left alone.
-/

namespace UserDirectory.Text

-- ---------------------------------------------------------------------------
-- One character
-- ---------------------------------------------------------------------------

/-- Whether the run holds the upper-case code point `n`. -/
def Run.holds (r : Run) (n : Nat) : Bool :=
  r.first ≤ n && n ≤ r.last && (n - r.first) % r.step == 0

/-- The lower-case form of the code point `n`, looked up in ascending runs. -/
def shiftBy : List Run → Nat → Nat
  | [], n => n
  | r :: rs, n =>
    if n < r.first then n
    else if r.holds n then (n + r.shift).toNat
    else shiftBy rs n

/-- The lower-case form of a character, on its own. -/
def lowerChar (c : Char) : List Char :=
  if c = 'İ' then ['i', '\u0307'] else [Char.ofNat (shiftBy lowerRuns c.toNat)]

/-- Whether the code point of `c` lies in one of the ranges. -/
def inRanges (ranges : List (Nat × Nat)) (c : Char) : Bool :=
  ranges.any fun (lo, hi) => lo ≤ c.toNat && c.toNat ≤ hi

/-- A letter with case. -/
def isCased (c : Char) : Bool := inRanges casedRanges c

/-- A character that the search for a neighbouring letter passes over. -/
def isCaseIgnorable (c : Char) : Bool := inRanges caseIgnorableRanges c

-- ---------------------------------------------------------------------------
-- Text
-- ---------------------------------------------------------------------------

/-- Whether the first character that is not passed over is a letter with case. -/
def startsCased (cs : List Char) : Bool :=
  match cs.dropWhile isCaseIgnorable with
  | [] => false
  | c :: _ => isCased c

/-- Whether a sigma stands at the end of a word: a letter comes before it and none after it.
The text before it is given backwards. -/
def isFinal (before after : List Char) : Bool :=
  startsCased before && !startsCased after

/-- Lower-case `cs`, which follows the text `before` (given backwards). -/
def lowerFrom (before : List Char) : List Char → List Char
  | [] => []
  | 'Σ' :: after => (if isFinal before after then 'ς' else 'σ') :: lowerFrom ('Σ' :: before) after
  | c :: after => lowerChar c ++ lowerFrom (c :: before) after

/-- Lower-case a list of characters. -/
def lowerChars (cs : List Char) : List Char := lowerFrom [] cs

/-- Lower-case a text. -/
def lowerCase (s : String) : String := String.ofList (lowerChars s.toList)

-- ---------------------------------------------------------------------------
-- Lower-case text stays as it is
-- ---------------------------------------------------------------------------

/-- A character that lower-casing leaves alone wherever it stands. -/
def IsLower (c : Char) : Prop := c ≠ 'Σ' ∧ lowerChar c = [c]

/-- Text without upper-case characters is left alone. -/
theorem lowerFrom_of_lower {cs : List Char} (h : ∀ c ∈ cs, IsLower c) (before : List Char) :
    lowerFrom before cs = cs := by
  induction cs generalizing before with
  | nil => rfl
  | cons c cs ih =>
    have hc := h c List.mem_cons_self
    have hcs := ih (fun d hd => h d (List.mem_cons_of_mem _ hd)) (c :: before)
    rw [lowerFrom, hc.2, hcs]
    · rfl
    · exact hc.1

/-- The code points that a run holds. -/
def Run.codes (r : Run) : List Nat :=
  (List.range ((r.last - r.first) / r.step + 1)).map fun k => r.first + k * r.step

/-- Where a run moves the code point `n`. -/
def Run.move (r : Run) (n : Nat) : Nat := (n + r.shift).toNat

/-- Whether nothing that `r` moves lands on a code point that `other` holds. The ends of the two
runs settle this, unless they overlap. -/
def Run.avoids (r other : Run) : Bool :=
  r.move r.last < other.first || other.last < r.move r.first ||
    r.codes.all fun n => !other.holds (r.move n)

/-- Whether everything that `r` moves lands on characters. -/
def Run.inChars (r : Run) : Bool :=
  0 < r.step && 0 ≤ r.first + r.shift &&
    (r.move r.last < 0xD800 || (0xDFFF < r.move r.first && r.move r.last < 0x110000))

/-- `İ`, which has a lower-case form of two characters, as a run. -/
def dottedCapital : Run := ⟨0x130, 0x130, 1, 0⟩

/-- The test in a form that is quick to evaluate: most runs are told apart by one comparison. -/
theorem Run.avoids_eq_bif (r other : Run) :
    r.avoids other =
      bif other.first.ble (r.move r.last) then
        bif (r.move r.first).ble other.last then r.codes.all fun n => !other.holds (r.move n)
        else true
      else true := by
  rw [Run.avoids, Bool.cond_eq_ite, Bool.cond_eq_ite]
  simp only [Nat.ble_eq, ← Nat.not_le]
  by_cases hfirst : other.first ≤ r.move r.last
  · by_cases hlast : r.move r.first ≤ other.last
    · simp [hfirst, hlast]
    · simp [hfirst, hlast]
  · simp [hfirst]

/-- The table of lower-case forms: all of them are characters, none of them is `İ`, and none is
moved again. -/
theorem lowerRuns_avoid :
    (lowerRuns.all fun r => r.inChars && r.avoids dottedCapital && lowerRuns.all r.avoids) = true := by
  have hquick : ∀ r : Run, r.avoids = _ := fun r => funext r.avoids_eq_bif
  simp only [hquick]
  decide +kernel

/-- What a run holds is among its code points. -/
theorem Run.mem_codes {r : Run} {n : Nat} (h : r.holds n = true) : n ∈ r.codes := by
  simp only [Run.holds, Bool.and_eq_true, decide_eq_true_eq, beq_iff_eq] at h
  obtain ⟨⟨h1, h2⟩, h3⟩ := h
  refine List.mem_map.2 ⟨(n - r.first) / r.step, List.mem_range.2 ?_, ?_⟩
  · have := Nat.div_le_div_right (c := r.step) (Nat.sub_le_sub_right h2 r.first)
    omega
  · have := Nat.div_mul_cancel (Nat.dvd_of_mod_eq_zero h3)
    omega

theorem Run.first_le_of_holds {r : Run} {n : Nat} (h : r.holds n = true) :
    r.first ≤ n ∧ n ≤ r.last := by
  simp only [Run.holds, Bool.and_eq_true, decide_eq_true_eq] at h
  exact h.1

theorem Run.move_mono {r : Run} {n m : Nat} (h : n ≤ m) : r.move n ≤ r.move m := by
  simp only [Run.move]
  omega

/-- A run that avoids another moves nothing onto it. -/
theorem Run.holds_move_of_avoids {r other : Run} (ha : r.avoids other = true) {n : Nat}
    (h : r.holds n = true) : other.holds (r.move n) = false := by
  simp only [Run.avoids, Bool.or_eq_true, decide_eq_true_eq, List.all_eq_true,
    Bool.not_eq_true'] at ha
  have hn := Run.first_le_of_holds h
  have h1 := Run.move_mono (r := r) hn.1
  have h2 := Run.move_mono (r := r) hn.2
  -- the run lands before the other one, behind it, or its code points have been looked at one by
  -- one
  rcases ha with (ha | ha) | ha
  · rw [← Bool.not_eq_true]
    intro hc
    have := Run.first_le_of_holds hc
    omega
  · rw [← Bool.not_eq_true]
    intro hc
    have := Run.first_le_of_holds hc
    omega
  · exact ha n (Run.mem_codes h)

/-- What a run moves lands on a character if the run does. -/
theorem Run.isValidChar_move {r : Run} (hr : r.inChars = true) {n : Nat}
    (h : r.holds n = true) : (r.move n).isValidChar := by
  simp only [Run.inChars, Bool.and_eq_true, Bool.or_eq_true, decide_eq_true_eq] at hr
  have hn := Run.first_le_of_holds h
  have h1 := Run.move_mono (r := r) hn.1
  have h2 := Run.move_mono (r := r) hn.2
  simp only [Nat.isValidChar]
  omega

/-- The code point of a character is left alone, or it is one that some run moves. -/
theorem shiftBy_eq_self_or (rs : List Run) (n : Nat) :
    shiftBy rs n = n ∨ ∃ r ∈ rs, r.holds n = true ∧ shiftBy rs n = r.move n := by
  induction rs with
  | nil => exact .inl rfl
  | cons r rs ih =>
    rw [shiftBy]
    split
    · exact .inl rfl
    · split
      · rename_i h
        exact .inr ⟨r, List.mem_cons_self, h, rfl⟩
      · rcases ih with h | ⟨r', hr', h⟩
        · exact .inl h
        · exact .inr ⟨r', List.mem_cons_of_mem _ hr', h⟩

/-- A code point that no run holds is left alone. -/
theorem shiftBy_of_not_holds {rs : List Run} {n : Nat} (h : ∀ r ∈ rs, r.holds n = false) :
    shiftBy rs n = n := by
  rcases shiftBy_eq_self_or rs n with hs | ⟨r, hr, hh, _⟩
  · exact hs
  · rw [h r hr] at hh
    contradiction

/-- The lower-case form of a character is left alone by lower-casing. -/
theorem isLower_of_lowerChar {c : Char} (hc : c ≠ 'Σ') : ∀ d ∈ lowerChar c, IsLower d := by
  intro d hd
  rw [lowerChar] at hd
  split at hd
  · simp only [List.mem_cons, List.not_mem_nil, or_false] at hd
    rcases hd with rfl | rfl <;> exact ⟨by decide +kernel, by decide +kernel⟩
  · rename_i hi
    rw [List.mem_singleton] at hd
    rcases shiftBy_eq_self_or lowerRuns c.toNat with hs | ⟨r, hr, hh, hs⟩
    · rw [hs, Char.ofNat_toNat] at hd
      subst hd
      refine ⟨hc, ?_⟩
      rw [lowerChar, if_neg hi, hs, Char.ofNat_toNat]
    · have hall := lowerRuns_avoid
      simp only [List.all_eq_true, Bool.and_eq_true] at hall
      obtain ⟨⟨hin, hdot⟩, hav⟩ := hall r hr
      rw [hs] at hd
      have hv := Run.isValidChar_move hin hh
      have hd' : d.toNat = r.move c.toNat := by
        rw [hd, Char.ofNat, dif_pos hv]
        rfl
      -- no run moves what another one has made
      have hfree : ∀ r' ∈ lowerRuns, r'.holds d.toNat = false := by
        intro r' hr'
        rw [hd']
        exact Run.holds_move_of_avoids (hav r' hr') hh
      refine ⟨?_, ?_⟩
      · intro hsigma
        have hcode : d.toNat = 0x3A3 := by rw [hsigma]; rfl
        have hany : (lowerRuns.any fun r => r.holds 0x3A3) = true := by decide +kernel
        obtain ⟨r', hr', h'⟩ := List.any_eq_true.1 hany
        have hno := hfree r' hr'
        rw [hcode] at hno
        exact Bool.false_ne_true (hno.symm.trans h')
      · have hne : d ≠ 'İ' := by
          intro hdotted
          have hcode : d.toNat = 0x130 := by rw [hdotted]; rfl
          have h1 := Run.holds_move_of_avoids hdot hh
          rw [← hd', hcode] at h1
          exact absurd h1 (by decide +kernel)
        rw [lowerChar, if_neg hne, shiftBy_of_not_holds hfree, Char.ofNat_toNat]

/-- Nothing in lower-cased text has an upper-case form left. -/
theorem isLower_of_mem_lowerFrom {cs : List Char} {before : List Char} :
    ∀ d ∈ lowerFrom before cs, IsLower d := by
  fun_induction lowerFrom before cs with
  | case1 => simp
  | case2 before after ih =>
    intro d hd
    rcases List.mem_cons.1 hd with rfl | hd
    · split <;> exact ⟨by decide +kernel, by decide +kernel⟩
    · exact ih d hd
  | case3 before c after hc ih =>
    intro d hd
    rcases List.mem_append.1 hd with hd | hd
    · exact isLower_of_lowerChar hc d hd
    · exact ih d hd

/-- Lower-casing twice is lower-casing once. -/
theorem lowerChars_lowerChars (cs : List Char) : lowerChars (lowerChars cs) = lowerChars cs :=
  lowerFrom_of_lower isLower_of_mem_lowerFrom []

theorem lowerCase_lowerCase (s : String) : lowerCase (lowerCase s) = lowerCase s := by
  simp only [lowerCase, String.toList_ofList, lowerChars_lowerChars]

end UserDirectory.Text
