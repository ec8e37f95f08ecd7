import UserDirectory.Proofs.Filter.Grammar
import UserDirectory.Proofs.Text.Boundary

/-!
# UserDirectory — writing and reading filters

Trees can be built that have no text of their own: an attribute may hold a parenthesis or a capital
letter, a conjunction may have no members. The text of such a tree is refused, or it is read as
another tree. The trees that are read back from their texts are the well-formed ones, and these are
also the trees that come out of reading.

## Results

* `Derives.readable`          — what the grammar derives has names and values that can be read.
* `Readable.derives`          — the text of such a tree is derivable as the tree.
* `parse_render_eq_ok_iff`    — a tree is read back from its text iff it is well-formed.
-/

namespace UserDirectory.Filter

open Text

-- ---------------------------------------------------------------------------
-- Well-formed trees
-- ---------------------------------------------------------------------------

mutual

/-- Whether the parts of a tree can be told apart in its text. -/
def Readable : Filter → Prop
  | .equality name pattern =>
    IsName name.toList ∧ (∀ c ∈ name.toList.head?, ¬IsMark c) ∧ lowerCase name = name ∧
      IsValue pattern.source.toList
  | .conjunction members => members ≠ [] ∧ AllReadable members
  | .disjunction members => members ≠ [] ∧ AllReadable members
  | .negation member => Readable member

/-- Whether the parts of each of the trees can be told apart in its text. -/
def AllReadable : List Filter → Prop
  | [] => True
  | f :: fs => Readable f ∧ AllReadable fs

end

/-- Whether a tree has a text from which it can be read. -/
structure WellFormed (f : Filter) : Prop where
  readable : f.Readable
  nesting_le : f.nesting ≤ 128

-- ---------------------------------------------------------------------------
-- Letter case
-- ---------------------------------------------------------------------------

theorem isBoundary_of_separator :
    ∀ c ∈ ['(', ')', '=', '&', '|', '!'], isBoundary c = true := by
  have hall : ['(', ')', '=', '&', '|', '!'].all isBoundary = true := by decide +kernel
  exact List.all_eq_true.mp hall

theorem isBoundary_open : isBoundary '(' = true := isBoundary_of_separator _ (by simp)

theorem isBoundary_close : isBoundary ')' = true := isBoundary_of_separator _ (by simp)

theorem isBoundary_equals : isBoundary '=' = true := isBoundary_of_separator _ (by simp)

theorem isBoundary_of_isMark {c : Char} (h : IsMark c) : isBoundary c = true := by
  rcases h with rfl | rfl | rfl
  · exact isBoundary_of_separator _ (by simp)
  · exact isBoundary_of_separator _ (by simp)
  · exact isBoundary_of_separator _ (by simp)

theorem toList_lowerCase_ofList (cs : List Char) :
    (lowerCase (String.ofList cs)).toList = lowerChars cs := by
  rw [lowerCase, String.toList_ofList, String.toList_ofList]

/-- A text may stand for a name if and only if it may in lower case. -/
theorem isName_lowerChars_iff {name : List Char} : IsName (lowerChars name) ↔ IsName name := by
  have hnil : lowerChars name = [] ↔ name = [] := lowerFrom_eq_nil_iff
  have hequals : '=' ∈ lowerChars name ↔ '=' ∈ name := mem_lowerChars_iff isBoundary_equals
  have hopen : '(' ∈ lowerChars name ↔ '(' ∈ name := mem_lowerChars_iff isBoundary_open
  have hclose : ')' ∈ lowerChars name ↔ ')' ∈ name := mem_lowerChars_iff isBoundary_close
  constructor
  · rintro ⟨hne, he, ho, hc⟩
    exact ⟨hnil.not.mp hne, hequals.not.mp he, hopen.not.mp ho, hclose.not.mp hc⟩
  · rintro ⟨hne, he, ho, hc⟩
    exact ⟨hnil.not.mpr hne, hequals.not.mpr he, hopen.not.mpr ho, hclose.not.mpr hc⟩

/-- A text may stand for a value if and only if it may in lower case. -/
theorem isValue_lowerChars_iff {value : List Char} :
    IsValue (lowerChars value) ↔ IsValue value := by
  have hopen : '(' ∈ lowerChars value ↔ '(' ∈ value := mem_lowerChars_iff isBoundary_open
  have hclose : ')' ∈ lowerChars value ↔ ')' ∈ value := mem_lowerChars_iff isBoundary_close
  constructor
  · rintro ⟨ho, hc⟩
    exact ⟨hopen.not.mp ho, hclose.not.mp hc⟩
  · rintro ⟨ho, hc⟩
    exact ⟨hopen.not.mpr ho, hclose.not.mpr hc⟩

/-- A name that starts with no mark does not do so in lower case either. -/
theorem not_isMark_lowerChars {name : List Char} (h : ∀ c ∈ name.head?, ¬IsMark c) :
    ∀ c ∈ (lowerChars name).head?, ¬IsMark c := by
  intro c hc hmark
  have hcaseless := isCaseless_of_isBoundary (isBoundary_of_isMark hmark)
  exact h c ((head?_lowerFrom_iff hcaseless).mp hc) hmark

-- ---------------------------------------------------------------------------
-- What is derived is readable
-- ---------------------------------------------------------------------------

mutual

/-- What the grammar derives can be told apart in its text. -/
theorem Derives.readable {t : List Char} {f : Filter} (h : Derives t f) : f.Readable := by
  match h with
  | @Derives.equality name value hname hmark hvalue =>
    rw [Readable, toList_lowerCase_ofList, lowerCase_lowerCase]
    refine ⟨isName_lowerChars_iff.mpr hname, not_isMark_lowerChars hmark, rfl, ?_⟩
    simpa [Pattern.ofText, lowerCase] using isValue_lowerChars_iff.mpr hvalue
  | .conjunction hs hne =>
    rw [Readable]
    exact ⟨hne, hs.allReadable⟩
  | .disjunction hs hne =>
    rw [Readable]
    exact ⟨hne, hs.allReadable⟩
  | .negation h =>
    rw [Readable]
    exact h.readable

/-- Members that the grammar derives can be told apart in their text. -/
theorem DerivesAll.allReadable {t : List Char} {fs : List Filter} (h : DerivesAll t fs) :
    AllReadable fs := by
  match h with
  | .nil =>
    rw [AllReadable]
    trivial
  | .cons h hs =>
    rw [AllReadable]
    exact ⟨h.readable, hs.allReadable⟩

end

-- ---------------------------------------------------------------------------
-- The text of a readable tree
-- ---------------------------------------------------------------------------

mutual

/-- The text of a tree whose parts can be told apart is derivable as the tree. -/
theorem Readable.derives : ∀ {f : Filter}, f.Readable → Derives f.chars f
  | .equality name pattern, h => by
    rw [Readable] at h
    obtain ⟨hname, hmark, hlower, hvalue⟩ := h
    -- a pattern is kept in lower case, so to bring it to lower case once more changes nothing
    have hpattern : Pattern.ofText pattern.source = pattern :=
      Pattern.ext_source pattern.lowerCase_source
    have hd := Derives.equality hname hmark hvalue
    rw [String.ofList_toList, hlower, String.ofList_toList, hpattern] at hd
    rw [chars]
    exact hd
  | .conjunction members, h => by
    rw [Readable] at h
    rw [chars]
    exact .conjunction (AllReadable.derivesAll h.2) h.1
  | .disjunction members, h => by
    rw [Readable] at h
    rw [chars]
    exact .disjunction (AllReadable.derivesAll h.2) h.1
  | .negation member, h => by
    rw [Readable] at h
    rw [chars]
    exact .negation (Readable.derives h)

/-- The texts of such trees, one after the other, are derivable as members. -/
theorem AllReadable.derivesAll :
    ∀ {fs : List Filter}, AllReadable fs → DerivesAll (charsOfAll fs) fs
  | [], _ => by
    rw [charsOfAll]
    exact .nil
  | f :: fs, h => by
    rw [AllReadable] at h
    rw [charsOfAll]
    exact .cons (Readable.derives h.1) (AllReadable.derivesAll h.2)

end

/-- The text of a tree starts and ends with a parenthesis. -/
theorem exists_chars_eq (f : Filter) : ∃ inside, f.chars = '(' :: (inside ++ [')']) := by
  cases f with
  | equality name pattern =>
    refine ⟨name.toList ++ '=' :: pattern.source.toList, ?_⟩
    rw [chars, List.append_assoc, List.cons_append]
  | conjunction members => exact ⟨'&' :: charsOfAll members, by rw [chars, List.cons_append]⟩
  | disjunction members => exact ⟨'|' :: charsOfAll members, by rw [chars, List.cons_append]⟩
  | negation member => exact ⟨'!' :: chars member, by rw [chars, List.cons_append]⟩

/-- There are no blanks around the text of a tree. -/
theorem trimChars_chars (f : Filter) : trimChars f.chars = f.chars := by
  obtain ⟨inside, h⟩ := exists_chars_eq f
  rw [h]
  apply trimChars_eq_self
  · intro c hc
    cases hc
    decide
  · intro c hc
    rw [← List.cons_append, List.getLast?_concat] at hc
    cases hc
    decide

/-- Reading makes well-formed trees only. -/
theorem wellFormed_of_parse {text : String} {f : Filter} (h : parse text = .ok f) :
    f.WellFormed := by
  rw [parse_eq_ok_iff_read, readFilter_nil_iff_derives] at h
  exact ⟨h.1.readable, h.2⟩

/-- A well-formed tree is read back from its text. -/
theorem parse_render_of_wellFormed {f : Filter} (h : f.WellFormed) : parse f.render = .ok f := by
  rw [parse_eq_ok_iff_read, render, String.toList_ofList, trimChars_chars,
    readFilter_nil_iff_derives]
  exact ⟨h.readable.derives, h.nesting_le⟩

/-- A tree is read back from its text if and only if it is well-formed. So every tree that has been
read from some text is read back from its own. -/
theorem parse_render_eq_ok_iff :
    (∀ f : Filter, parse f.render = .ok f ↔ f.WellFormed) ∧
      ∀ (text : String) (f : Filter), parse text = .ok f → parse f.render = .ok f := by
  refine ⟨fun f => ⟨wellFormed_of_parse, parse_render_of_wellFormed⟩, ?_⟩
  intro text f h
  exact parse_render_of_wellFormed (wellFormed_of_parse h)

/-- Blanks and capital letters are gone from the tree, which is read back from `(!(uid=a.*))`. -/
theorem parse_render_negation :
    parse " (!(UID=A.*))\n" = .ok (.negation (equals "UID" "A.*")) ∧
      parse (render (.negation (equals "UID" "A.*"))) = .ok (.negation (equals "UID" "A.*")) := by
  have h : parse " (!(UID=A.*))\n" = .ok (.negation (equals "UID" "A.*")) := by decide +kernel
  exact ⟨h, parse_render_eq_ok_iff.2 _ _ h⟩

/-- A tree with a capital letter in an attribute is read back as another one. -/
example : parse (render (.equality "UID" (.ofText "a"))) = .ok (.equality "uid" (.ofText "a")) := by
  decide +kernel

end UserDirectory.Filter
