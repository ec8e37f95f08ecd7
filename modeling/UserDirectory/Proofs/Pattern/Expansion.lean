import UserDirectory.Pattern
import UserDirectory.Proofs.Regex.Reading
import UserDirectory.Proofs.Regex.Size

/-!
# UserDirectory — the expression of a pattern

A pattern in which nothing but dots and stars would have a meaning of its own becomes a sequence of
one part for each of its characters: a repetition of what may stand in a line for a star, and the
character itself otherwise. A pattern is refused for its size only, and one that is not very long is
small enough.

## Results

* `ofText?_expand`        — the expression of such a pattern, if it is small enough.
* `isSome_ofText?_expand` — it is if the pattern has no more than 8000 characters.
-/

namespace UserDirectory.Pattern

open Text Regex

/-- The characters, besides dots and stars, that have a meaning in expressions. -/
def operators : List Char := ['\\', '+', '?', '(', ')', '|', '[', ']', '\x7b', '\x7d', '^', '$']

/-- That a text has none of some characters can be computed. -/
theorem forall_not_mem_iff {marks cs : List Char} :
    (∀ c ∈ cs, c ∉ marks) ↔ cs.all (fun c => !marks.contains c) = true := by
  simp only [List.all_eq_true, Bool.not_eq_true', ← Bool.not_eq_true, List.contains_iff_mem]

theorem forall_not_mem_operators_iff {cs : List Char} :
    (∀ c ∈ cs, c ∉ operators) ↔ cs.all (fun c => !operators.contains c) = true :=
  forall_not_mem_iff

/-- The characters that may stand where a pattern has a star: all but the end of a line. -/
def starSet : CharSet := ⟨[(0, 9), (11, 1114111)]⟩

theorem atomAt_dot (cs : List Char) :
    atomAt {} ('.' :: cs) = some ({ regex := .set starSet }, (Tail.whole cs).cons '.') := rfl

/-- What a character of a pattern becomes. -/
def partOf : Char → Fragment
  | '*' => { regex := .rep (.set starSet) 0 none true, depth := 1 }
  | c => { regex := .set (.single c) }

theorem partOf_star : partOf '*' = { regex := .rep (.set starSet) 0 none true, depth := 1 } := rfl

theorem partOf_char {c : Char} (hc : c ≠ '*') : partOf c = { regex := .set (.single c) } := by
  rw [partOf]
  exact hc

/-- The expression of a pattern. -/
def wildcard (cs : List Char) : Regex := seqAll (cs.map fun c => .part (partOf c))

section

variable {c : Char} {cs : List Char}

-- ---------------------------------------------------------------------------
-- Reading
-- ---------------------------------------------------------------------------

theorem expand_dot (cs : List Char) : expand ('.' :: cs) = '\\' :: '.' :: expand cs := rfl

theorem expand_star (cs : List Char) : expand ('*' :: cs) = '.' :: '*' :: expand cs := rfl

theorem expand_char (hdot : c ≠ '.') (hstar : c ≠ '*') : expand (c :: cs) = c :: expand cs := by
  rw [expand]
  · exact hdot
  · exact hstar

/-- Only backslashes and dots come first in an expression that are not first in the pattern. -/
theorem expand_ne_cons {m : Char} (hm : m ∉ ['\\', '.']) (h : m ∉ cs) (back : List Char) :
    expand cs ≠ m :: back := by
  simp only [List.mem_cons, List.not_mem_nil, or_false, not_or] at hm
  cases cs with
  | nil => simp [expand]
  | cons c cs =>
    rw [List.mem_cons, not_or] at h
    by_cases hdot : c = '.'
    · subst hdot
      rw [expand_dot]
      exact fun heq => hm.1 (List.cons.inj heq).1.symm
    by_cases hstar : c = '*'
    · subst hstar
      rw [expand_star]
      exact fun heq => hm.2 (List.cons.inj heq).1.symm
    rw [expand_char hdot hstar]
    exact fun heq => h.1 (List.cons.inj heq).1.symm

/-- The induction is on the pattern: each character is one more part, with the parts before it given
backwards. -/
theorem bodyOf_expand (h : ∀ c ∈ cs, c ∉ operators) (items : List Item) :
    bodyOf [] items (expand cs) =
      some (closeSeq ((cs.map fun c => .part (partOf c)).reverse ++ items)) := by
  induction cs generalizing items with
  | nil => exact bodyOf_nil
  | cons c cs ih =>
    have hc := h c List.mem_cons_self
    have hcs : ∀ d ∈ cs, d ∉ operators := fun d hd => h d (List.mem_cons_of_mem _ hd)
    have hnext : bodyOf [] (.part (partOf c) :: items) (expand cs) =
        some (closeSeq (((c :: cs).map fun c => .part (partOf c)).reverse ++ items)) := by
      rw [ih hcs, List.map_cons, List.reverse_cons, List.append_assoc, List.singleton_append]
    rw [← hnext]
    by_cases hdot : c = '.'
    · subst hdot
      rw [expand_dot]
      exact bodyOf_atom (by decide) (by decide) atomAt_escapedDot
    by_cases hstar : c = '*'
    · subst hstar
      -- a question mark behind the star would make it reluctant, but the pattern has none
      have hquestion : '?' ∉ cs := fun hmem => hcs '?' hmem (by decide)
      have hany : bodyOf [] items (expand ('*' :: cs)) =
          bodyOf [] (.part { regex := .set starSet } :: items) ('*' :: expand cs) := by
        rw [expand_star]
        exact bodyOf_atom (by decide) (by decide) (atomAt_dot _)
      rw [hany]
      exact bodyOf_repetition (by decide) (repetitionAt_star (expand_ne_cons (by decide) hquestion)) rfl
    · simp only [operators, List.mem_cons, List.not_mem_nil, or_false, not_or] at hc
      rw [expand_char hdot hstar, partOf_char hstar]
      exact bodyOf_atom (by simp [hc]) (by simp [startsRepetition, hc, hstar])
        (atomAt_char (by simp [hc, hdot]))

/-- A pattern is neither nested too deeply nor does it name groups. -/
theorem depth_partOf_le (c : Char) : (partOf c).depth ≤ 1 := by
  by_cases hstar : c = '*'
  · subst hstar
    exact Nat.le_refl _
  · rw [partOf_char hstar]
    exact Nat.zero_le _

theorem names_partOf (c : Char) : (partOf c).names = [] := by
  by_cases hstar : c = '*'
  · subst hstar
    rfl
  · rw [partOf_char hstar]

/-- The greatest of some numbers is within a bound if they all are. -/
theorem foldl_max_le {ns : List Nat} {n m : Nat} (hn : n ≤ m) (hns : ∀ k ∈ ns, k ≤ m) :
    ns.foldl max n ≤ m := by
  induction ns generalizing n with
  | nil => exact hn
  | cons k ns ih =>
    exact ih (Nat.max_le.mpr ⟨hn, hns k List.mem_cons_self⟩) fun l hl =>
      hns l (List.mem_cons_of_mem _ hl)

/-- The expression of a pattern, if it is small enough. -/
theorem ofText?_expand (h : ∀ c ∈ cs, c ∉ operators) :
    ofText? (expand cs) = if (wildcard cs).fits then some (wildcard cs) else none := by
  -- the three checks that an expression has to pass: its nesting, its names, and its size
  have hdepth : (closeSeq (cs.map fun c => .part (partOf c)).reverse).depth ≤ maxNesting := by
    have hparts : ∀ k ∈ (cs.map fun c => (partOf c).depth).reverse, k ≤ 1 := by
      intro k hk
      obtain ⟨c, -, rfl⟩ := List.mem_map.mp (List.mem_reverse.mp hk)
      exact depth_partOf_le c
    have hmax := foldl_max_le (Nat.zero_le 1) hparts
    rw [closeSeq, maxNesting]
    simp only [List.map_reverse, List.map_map, Function.comp_def]
    split <;> omega
  have hnames : (closeSeq (cs.map fun c => .part (partOf c)).reverse).names = [] := by
    rw [closeSeq, List.flatMap_eq_nil_iff]
    intro item hitem
    obtain ⟨c, -, rfl⟩ := List.mem_map.mp (List.mem_reverse.mp hitem)
    exact names_partOf c
  have hregex : (closeSeq (cs.map fun c => .part (partOf c)).reverse).regex = wildcard cs := by
    rw [closeSeq, List.reverse_reverse, wildcard]
  rw [ofText?_eq, bodyOf_expand h, List.append_nil, Option.bind_some, hregex, hnames]
  simp only [hdepth, List.nodup_nil, true_and]

-- ---------------------------------------------------------------------------
-- Size
-- ---------------------------------------------------------------------------

/-- The plan of a character of a pattern. -/
def planFor : Char → Plan
  | '*' => .rep (.set starSet) 0 none true
  | c => .literal [c]

theorem planFor_char (hc : c ≠ '*') : planFor c = .literal [c] := by
  rw [planFor]
  exact hc

/-- The plan of a character is a single part. -/
theorem parts_planFor (c : Char) : (planFor c).parts = [planFor c] := by
  by_cases hstar : c = '*'
  · subst hstar
    rfl
  · rw [planFor_char hstar]
    rfl

/-- What a character of a pattern becomes has one branch, with one plan in it. -/
theorem branches_partOf (c : Char) : (partOf c).regex.branches = [[planFor c]] := by
  by_cases hstar : c = '*'
  · subst hstar
    rfl
  · have hone : (CharSet.single c).single? = some c.toNat := if_pos rfl
    rw [partOf_char hstar, planFor_char hstar, branches, Plan.ofSet, hone]
    simp only [Char.ofNat_toNat]

/-- The expression of a pattern has one branch: a plan for each of its characters. -/
theorem branches_wildcard (cs : List Char) : (wildcard cs).branches = [cs.map planFor] := by
  induction cs with
  | nil => rfl
  | cons c cs ih =>
    cases cs with
    | nil => exact branches_partOf c
    | cons d cs =>
      have hseq : wildcard (c :: d :: cs) = .seq (partOf c).regex (wildcard (d :: cs)) := rfl
      rw [hseq, branches, branches_partOf, ih]
      rfl

/-- A star takes more than any character. -/
theorem takes_tally_planFor (c : Char) (back : Bool) :
    Tally.Takes (Plan.tally back (planFor c)) 31 272 := by
  by_cases hstar : c = '*'
  · subst hstar
    exact (takes_tally_rep_set (by decide) (by decide) back true).mono (by decide +kernel)
      (by decide +kernel)
  · have hbytes : byteLength [c] ≤ 31 := by
      have hsize := c.utf8Size_le_four
      rw [byteLength_cons, byteLength_nil]
      omega
    rw [planFor_char hstar]
    exact (Tally.takes_add (byteLength [c]) 0).mono hbytes (Nat.zero_le _)

/-- A pattern of no more than 8000 characters is small enough. -/
theorem fits_wildcard (h : cs.length ≤ 8000) : (wildcard cs).fits = true := by
  have hparts : (cs.map planFor).flatMap Plan.parts = cs.map planFor := by
    rw [List.flatMap_map]
    simp only [parts_planFor]
    exact List.map_eq_flatMap.symm
  have htakes : ∀ p ∈ cs.map planFor, ∀ back, Tally.Takes (Plan.tally back p) 31 272 := by
    intro p hp back
    obtain ⟨c, -, rfl⟩ := List.mem_map.mp hp
    exact takes_tally_planFor c back
  refine fits_of_branches (branches_wildcard cs) hparts htakes ?_
  · have hmax : maxSize = 10485760 := by decide
    rw [List.length_map, hmax]
    simp only [stateSize, branchSize, transitionSize]
    omega

/-- A pattern that is not very long has an expression. -/
theorem isSome_ofText?_expand (hplain : ∀ c ∈ cs, c ∉ operators) (hlength : cs.length ≤ 8000) :
    (ofText? (expand cs)).isSome = true := by
  rw [ofText?_expand hplain, fits_wildcard hlength]
  rfl

end

end UserDirectory.Pattern
