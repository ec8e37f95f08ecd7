import UserDirectory.Proofs.Pattern.Expansion
import UserDirectory.Proofs.Regex.Matching
import UserDirectory.Proofs.Text.Boundary

/-!
# UserDirectory — what patterns accept

A pattern looks at a value in lower case only, and at whether there is anything in it, which lower
case does not change. The stars of a pattern cut it into pieces. It accepts a value in which these
occur one after the other, with gaps that hold no end of a line; the search need not know which
gaps to take, since the rules of matching allow all of them. A pattern of stars alone accepts
whatever is not empty.

## Results

* `Pattern.Matcher.accepts_lowerCase` — a pattern accepts a value if it accepts it in lower case.
* `Pattern.matches_wildcard_iff`      — which stretches of a text the expression of a pattern takes.
* `Pattern.isSome_regex?_ofText`      — a wildcard pattern that is not very long has an expression.
* `Pattern.accepts_ofText_iff`        — which values it accepts then.
* `Pattern.accepts_star_iff`          — the pattern of a star accepts all values but the empty one.
-/

namespace UserDirectory

open Text Regex

-- ---------------------------------------------------------------------------
-- Letter case
-- ---------------------------------------------------------------------------

theorem lowerCase_eq_empty_iff {s : String} : lowerCase s = "" ↔ s = "" := by
  rw [← String.toList_eq_nil_iff, lowerCase, String.toList_ofList, lowerChars_toList_eq_nil_iff]

/-- A pattern accepts a value if it accepts it in lower case. -/
theorem Pattern.Matcher.accepts_lowerCase (m : Matcher) (value : String) :
    m.accepts (lowerCase value) = m.accepts value := by
  have hempty : (lowerCase value).isEmpty = value.isEmpty := by
    rw [Bool.eq_iff_iff, String.isEmpty_iff, String.isEmpty_iff, lowerCase_eq_empty_iff]
  have hchars : lowerChars (lowerCase value).toList = lowerChars value.toList := by
    rw [lowerCase, String.toList_ofList, lowerChars_lowerChars]
  rw [accepts, accepts, hempty, hchars]

namespace Pattern

/-- A pattern is made of operators only where its text is. -/
theorem isCaseless_of_mem_operators {c : Char} (hc : c ∈ operators) : isCaseless c = true := by
  have hall : operators.all isCaseless = true := by decide +kernel
  exact List.all_eq_true.mp hall c hc

/-- Lower-casing makes no stars and loses none. -/
theorem all_star_lowerChars (cs : List Char) :
    (lowerChars cs).all (· == '*') = cs.all (· == '*') := by
  have hstar : isBoundary '*' = true := by decide +kernel
  induction cs with
  | nil => rw [lowerChars_nil]
  | cons c cs ih =>
    by_cases hc : c = '*'
    · subst hc
      rw [lowerChars_cons hstar, List.all_cons, List.all_cons, ih]
    · -- any other character has a first character in lower case, which is no star
      obtain ⟨d, ds, hlower⟩ := List.exists_cons_of_ne_nil
        (show lowerFrom [] (c :: cs) ≠ [] from lowerFrom_ne_nil (List.cons_ne_nil c cs))
      have hd : d ≠ '*' := by
        rintro rfl
        have hhead := (head?_lowerFrom_iff (isCaseless_of_isBoundary hstar)).mp
          (congrArg List.head? hlower)
        exact hc (Option.some.inj hhead)
      rw [lowerChars, hlower, List.all_cons, List.all_cons, beq_false_of_ne hd, beq_false_of_ne hc,
        Bool.false_and, Bool.false_and]

-- ---------------------------------------------------------------------------
-- Pieces
-- ---------------------------------------------------------------------------

/-- `Spaced pieces t` says that `t` is made of the pieces, one after the other, with a gap between
each two of them that holds no end of a line. -/
inductive Spaced : List (List Char) → List Char → Prop where
  | last (piece : List Char) : Spaced [piece] piece
  | gap (piece : List Char) {gap : List Char} {pieces : List (List Char)} {t : List Char} :
      '\n' ∉ gap → Spaced pieces t → Spaced (piece :: pieces) (piece ++ gap ++ t)

section

variable {c : Char} {cs t : List Char}

/-- Nothing of the pieces is left out. -/
theorem Spaced.flatten_sublist {pieces : List (List Char)} (h : Spaced pieces t) :
    pieces.flatten.Sublist t := by
  induction h with
  | last piece =>
    rw [List.flatten_singleton]
  | gap piece _ _ ih =>
    rw [List.flatten_cons, List.append_assoc]
    exact ih.trans (List.sublist_append_right _ _) |>.append_left piece

/-- A single piece leaves no room for gaps. -/
theorem spaced_singleton_iff {piece : List Char} : Spaced [piece] t ↔ t = piece := by
  constructor
  · intro h
    cases h with
    | last => rfl
    | gap _ _ hrest => cases hrest
  · rintro rfl
    exact .last t

/-- A piece that starts with a character stands where the character and what is left of it do. -/
theorem spaced_cons_iff {piece : List Char} {pieces : List (List Char)} :
    Spaced ((c :: piece) :: pieces) t ↔ ∃ u, t = c :: u ∧ Spaced (piece :: pieces) u := by
  constructor
  · intro h
    cases h with
    | last => exact ⟨piece, rfl, .last piece⟩
    | gap _ hgap hrest => exact ⟨_, rfl, .gap piece hgap hrest⟩
  · rintro ⟨u, rfl, h⟩
    cases h with
    | last => exact .last (c :: piece)
    | gap _ hgap hrest => exact .gap (c :: piece) hgap hrest

/-- A character other than a star belongs to the first piece. -/
theorem spaced_splitOn_char (hc : c ≠ '*') :
    Spaced ((c :: cs).splitOn '*') t ↔ ∃ u, t = c :: u ∧ Spaced (cs.splitOn '*') u := by
  have hsplit : (c :: cs).splitOn '*' = (cs.splitOn '*').modifyHead (List.cons c) := by
    rw [List.splitOn, List.splitOnP_cons_eq_if_modifyHead, beq_false_of_ne hc]
    rfl
  obtain ⟨piece, pieces, hpieces⟩ :=
    List.exists_cons_of_ne_nil (List.splitOnP_ne_nil (· == '*') cs)
  rw [← List.splitOn] at hpieces
  rw [hsplit, hpieces, List.modifyHead_cons, spaced_cons_iff]

/-- A star ends the first piece, and a gap comes before the others. -/
theorem spaced_splitOn_star :
    Spaced (('*' :: cs).splitOn '*') t ↔
      ∃ gap u, '\n' ∉ gap ∧ t = gap ++ u ∧ Spaced (cs.splitOn '*') u := by
  have hsplit : ('*' :: cs).splitOn '*' = [] :: cs.splitOn '*' := by
    rw [List.splitOn, List.splitOnP_cons_eq_if_modifyHead]
    rfl
  rw [hsplit]
  constructor
  · generalize hpieces : cs.splitOn '*' = pieces
    intro h
    cases h with
    | last => exact absurd hpieces (List.splitOnP_ne_nil _ _)
    | gap _ hgap hrest => exact ⟨_, _, hgap, rfl, hrest⟩
  · rintro ⟨gap, u, hgap, rfl, hrest⟩
    exact .gap [] hgap hrest

-- ---------------------------------------------------------------------------
-- Expressions
-- ---------------------------------------------------------------------------

/-- A star passes over whatever does not end a line. -/
theorem contains_starSet (c : Char) : starSet.contains c = true ↔ c ≠ '\n' := by
  have hlast : c.toNat ≤ 1114111 := by
    have hvalid := c.valid
    simp only [UInt32.isValidChar, Nat.isValidChar] at hvalid
    have hnat : c.toNat = c.val.toNat := rfl
    omega
  have hend : c = '\n' ↔ c.toNat = 10 := ⟨fun h => h ▸ rfl, fun h => Char.toNat_inj.mp h⟩
  rw [ne_eq, hend]
  simp only [starSet, CharSet.contains, CharSet.holds, List.any_cons, List.any_nil, Bool.or_false,
    Bool.or_eq_true, Bool.and_eq_true, decide_eq_true_eq]
  omega

/-- The expression of a pattern takes what its first character takes, and then what the others
take. -/
theorem matches_wildcard_cons {text : List Char} {i k : Nat} :
    Matches text (wildcard (c :: cs)) i k ↔
      ∃ j, Matches text (partOf c).regex i j ∧ Matches text (wildcard cs) j k := by
  cases cs with
  | nil =>
    have hempty : wildcard [] = .empty := rfl
    simp only [hempty, matches_empty_iff]
    constructor
    · exact fun h => ⟨k, h, rfl, h.le.2⟩
    · rintro ⟨j, h, rfl, -⟩
      exact h
  | cons d cs => exact matches_seq_iff

/-- A star takes a gap. -/
theorem matches_partOf_star {text : List Char} {i k : Nat} :
    Matches text (partOf '*').regex i k ↔ ∃ gap, '\n' ∉ gap ∧ Stretch text i k gap := by
  have hgap : ∀ gap : List Char, (∀ c ∈ gap, starSet.contains c = true) ↔ '\n' ∉ gap := by
    intro gap
    simp only [contains_starSet]
    constructor
    · exact fun h hmem => h '\n' hmem rfl
    · rintro h c hc rfl
      exact h hc
  rw [partOf_star, matches_rep_set_iff]
  simp only [hgap]

theorem matches_partOf_char {text : List Char} {i k : Nat} (hc : c ≠ '*') :
    Matches text (partOf c).regex i k ↔ Stretch text i k [c] := by
  rw [partOf_char hc]
  exact matches_set_single_iff

/-- The induction is on the pattern: a star is a gap in front of what the rest of it takes, and any
other character belongs to the first piece of it. -/
theorem matches_wildcard_iff {text : List Char} {i k : Nat} :
    Matches text (wildcard cs) i k ↔ ∃ t, Stretch text i k t ∧ Spaced (cs.splitOn '*') t := by
  induction cs generalizing i with
  | nil =>
    have hempty : wildcard [] = .empty := rfl
    simp only [hempty, matches_empty_iff, List.splitOn_nil, spaced_singleton_iff, exists_eq_right,
      stretch_nil_iff]
  | cons c cs ih =>
    simp only [matches_wildcard_cons, ih]
    -- a star starts a new piece behind a gap; any other character belongs to the piece that follows
    by_cases hc : c = '*'
    · subst hc
      simp only [matches_partOf_star, spaced_splitOn_star]
      constructor
      · rintro ⟨j, ⟨gap, hgap, hfirst⟩, t, hrest, hspaced⟩
        exact ⟨gap ++ t, stretch_append_iff.mpr ⟨j, hfirst, hrest⟩, gap, t, hgap, rfl, hspaced⟩
      · rintro ⟨_, hstretch, gap, t, hgap, rfl, hspaced⟩
        obtain ⟨j, hfirst, hrest⟩ := stretch_append_iff.mp hstretch
        exact ⟨j, ⟨gap, hgap, hfirst⟩, t, hrest, hspaced⟩
    · simp only [matches_partOf_char hc, spaced_splitOn_char hc]
      constructor
      · rintro ⟨j, hfirst, t, hrest, hspaced⟩
        exact ⟨[c] ++ t, stretch_append_iff.mpr ⟨j, hfirst, hrest⟩, t, rfl, hspaced⟩
      · rintro ⟨_, hstretch, t, rfl, hspaced⟩
        obtain ⟨hfirst, hrest⟩ := stretch_cons_iff.mp hstretch
        exact ⟨i + 1, stretch_singleton_iff.mpr ⟨rfl, hfirst⟩, t, hrest, hspaced⟩

/-- The bounds of a star are in order. -/
theorem isOrdered_partOf (c : Char) : (partOf c).regex.IsOrdered := by
  by_cases hc : c = '*'
  · subst hc
    exact ⟨trivial, by simp⟩
  · rw [partOf_char hc]
    trivial

/-- All bounds in the expression of a pattern are in order. -/
theorem isOrdered_wildcard (cs : List Char) : (wildcard cs).IsOrdered := by
  induction cs with
  | nil => trivial
  | cons c cs ih =>
    cases cs with
    | nil => exact isOrdered_partOf c
    | cons d cs => exact ⟨isOrdered_partOf c, ih⟩

/-- The expression of a pattern is found where the pieces occur one after the other. -/
theorem isMatch_wildcard_iff {text : List Char} :
    isMatch (wildcard cs) text = true ↔
      ∃ a t b, text = a ++ t ++ b ∧ Spaced (cs.splitOn '*') t := by
  rw [isMatch_iff_finds (isOrdered_wildcard cs), Finds]
  simp only [matches_wildcard_iff]
  constructor
  · rintro ⟨-, -, t, ⟨a, b, htext, -⟩, hspaced⟩
    exact ⟨a, t, b, htext, hspaced⟩
  · rintro ⟨a, t, b, htext, hspaced⟩
    exact ⟨a.length, a.length + t.length, t, ⟨a, b, htext, rfl, rfl⟩, hspaced⟩

end

-- ---------------------------------------------------------------------------
-- Patterns
-- ---------------------------------------------------------------------------

/-- A pattern asks for presence if it is made of stars alone, of one at least. -/
theorem presence_eq_true_iff {p : Pattern} :
    p.matcher.presence = true ↔
      p.source.toList ≠ [] ∧ p.source.toList.all (· == '*') = true := by
  rw [matcher, Bool.and_eq_true, Bool.not_eq_true', ← Bool.not_eq_true, List.isEmpty_iff]

/-- What a pattern accepts that has an expression: its pieces one after the other, and something at
all if it is there for presence. -/
theorem accepts_iff {p : Pattern} (hplain : ∀ c ∈ p.source.toList, c ∉ operators)
    (hcompiled : p.matcher.regex?.isSome = true) {value : String} :
    p.accepts value = true ↔
      (p.matcher.presence = true → value ≠ "") ∧
        ∃ a t b, lowerChars value.toList = a ++ t ++ b ∧
          Spaced (p.source.toList.splitOn '*') t := by
  have hregex : p.matcher.regex? = some (wildcard p.source.toList) := by
    have hread : p.matcher.regex? =
        if (wildcard p.source.toList).fits then some (wildcard p.source.toList) else none :=
      ofText?_expand hplain
    rw [hread] at hcompiled ⊢
    split at hcompiled
    · next hfits => rw [if_pos hfits]
    · contradiction
  rw [accepts, Matcher.accepts, hregex, ← isMatch_wildcard_iff]
  simp only [Bool.and_eq_true, Bool.not_eq_true', ← Bool.not_eq_true, String.isEmpty_iff, not_and,
    ne_eq]

theorem toList_source_ofText (text : String) :
    (ofText text).source.toList = lowerChars text.toList := String.toList_ofList

/-- Lower-casing makes no operators. -/
theorem not_mem_operators_of_ofText {text : String} (h : ∀ c ∈ text.toList, c ∉ operators) :
    ∀ c ∈ (ofText text).source.toList, c ∉ operators := by
  intro c hc hoperator
  rw [toList_source_ofText, lowerChars,
    mem_lowerFrom_iff (isCaseless_of_mem_operators hoperator)] at hc
  exact h c hc hoperator

/-- A wildcard pattern that is not very long has an expression. -/
theorem isSome_regex?_ofText {text : String} (hplain : ∀ c ∈ text.toList, c ∉ operators)
    (hlength : (lowerChars text.toList).length ≤ 8000) :
    (ofText text).matcher.regex?.isSome = true := by
  rw [← toList_source_ofText] at hlength
  exact isSome_ofText?_expand (not_mem_operators_of_ofText hplain) hlength

/-- A wildcard pattern that has an expression accepts a value if and only if the pieces of the
pattern between its stars occur in the value one after the other, both in lower case, with gaps
between them that hold no end of a line. A pattern of stars alone accepts no empty value. -/
theorem accepts_ofText_iff (text value : String) (hplain : ∀ c ∈ text.toList, c ∉ operators)
    (hcompiled : (ofText text).matcher.regex?.isSome = true) :
    (ofText text).accepts value = true ↔
      (∃ a t b, (lowerCase value).toList = a ++ t ++ b ∧
        Spaced ((lowerCase text).toList.splitOn '*') t) ∧
      (text ≠ "" → (∀ c ∈ text.toList, c = '*') → value ≠ "") := by
  have hpresence : (ofText text).matcher.presence = true ↔
      text ≠ "" ∧ ∀ c ∈ text.toList, c = '*' := by
    rw [presence_eq_true_iff, toList_source_ofText, ne_eq, lowerChars_toList_eq_nil_iff,
      all_star_lowerChars]
    simp only [List.all_eq_true, beq_iff_eq, ne_eq]
  rw [accepts_iff (not_mem_operators_of_ofText hplain) hcompiled, hpresence, and_imp, and_comm]
  simp only [toList_source_ofText, lowerCase, String.toList_ofList]

/-- The dot and the letters of `Per*.ORG*` are found in a value in other letter case, with a gap
before the dot and none behind it. Another character does not do for the dot. -/
theorem accepts_ofText_dotted :
    (∀ c ∈ "Per*.ORG*".toList, c ∉ operators) ∧
    (ofText "Per*.ORG*").matcher.regex?.isSome = true ∧
    (ofText "Per*.ORG*").accepts "A@PERSON.Example.Org" = true ∧
    (ofText "Per*.ORG*").accepts "A@PERSON-Example-Org" = false := by
  have hplain : ∀ c ∈ "Per*.ORG*".toList, c ∉ operators :=
    forall_not_mem_operators_iff.mpr (by decide)
  have hcompiled := isSome_regex?_ofText hplain (by decide +kernel)
  have hpieces : (lowerCase "Per*.ORG*").toList.splitOn '*' =
      ["per".toList, ".org".toList, []] := by decide +kernel
  refine ⟨hplain, hcompiled, (accepts_ofText_iff _ _ hplain hcompiled).mpr ⟨?_, ?_⟩, ?_⟩
  · have hvalue : (lowerCase "A@PERSON.Example.Org").toList =
        "a@".toList ++ ("per".toList ++ "son.example".toList ++ (".org".toList ++ [] ++ [])) ++ [] := by
      decide +kernel
    rw [hpieces]
    exact ⟨_, _, _, hvalue, .gap _ (by decide) (.gap _ (by decide) (.last []))⟩
  · intro _ hstars
    exact absurd (hstars 'P' (by decide)) (by decide)
  · rw [← Bool.not_eq_true]
    intro haccepts
    obtain ⟨⟨a, t, b, hvalue, hspaced⟩, -⟩ :=
      (accepts_ofText_iff _ _ hplain hcompiled).mp haccepts
    rw [hpieces] at hspaced
    have hdot : '.' ∈ t := hspaced.flatten_sublist.mem (by decide)
    have hmem : '.' ∈ (lowerCase "A@PERSON-Example-Org").toList := by
      rw [hvalue]
      exact List.mem_append_left _ (List.mem_append_right _ hdot)
    exact absurd hmem (by decide +kernel)

/-- The pattern of a star accepts all values but the empty one. -/
theorem accepts_star_iff {value : String} :
    (Pattern.ofText "*").matcher.accepts value = true ↔ value ≠ "" := by
  have hsource : (Pattern.ofText "*").source.toList = ['*'] := by decide +kernel
  have hplain : ∀ c ∈ (Pattern.ofText "*").source.toList, c ∉ operators := by
    rw [hsource]
    exact forall_not_mem_operators_iff.mpr (by decide)
  have hcompiled : (Pattern.ofText "*").matcher.regex?.isSome = true :=
    isSome_ofText?_expand hplain (by rw [hsource]; decide)
  have hpresence : (Pattern.ofText "*").matcher.presence = true := by
    rw [presence_eq_true_iff, hsource]
    decide
  -- the empty stretch has both pieces, and the gap between them
  have hspaced : Spaced (['*'].splitOn '*') [] :=
    spaced_splitOn_star.mpr ⟨[], [], by decide, rfl, spaced_singleton_iff.mpr rfl⟩
  have hiff : (Pattern.ofText "*").accepts value = true ↔ _ := accepts_iff hplain hcompiled
  rw [hsource] at hiff
  refine hiff.trans ⟨fun h => h.1 hpresence, fun hvalue => ⟨fun _ => hvalue, ?_⟩⟩
  exact ⟨[], [], lowerChars value.toList, rfl, hspaced⟩

end Pattern

end UserDirectory
