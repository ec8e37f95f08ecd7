import UserDirectory.Proofs.Filter.RoundTrip

/-!
# UserDirectory — filters and letter case

A filter keeps its attributes and patterns in lower case, each brought to lower case on its own. The
lower-case form of a whole text may differ from that of its pieces, but not where the pieces meet
at a parenthesis, a mark, an `=` or a blank. So it makes no difference whether a text is brought to
lower case before it is read, or what has been read is.

## Results

* `Derives.chars_eq`        — the text of a filter is the lower-cased text it is derived from.
* `readFilter_lowerChars`   — a reader finds the same in a lower-cased text, for better or worse.
* `parse_lowerCase`         — so does the reader of a whole text.
* `parse_ignores_letterCase` — the canonical text, and texts that differ in letter case only.
-/

namespace UserDirectory.Filter

open Text

/-- An opening parenthesis stays in lower case, and what is behind it is lower-cased apart. -/
theorem lowerChars_open_cons (cs : List Char) : lowerChars ('(' :: cs) = '(' :: lowerChars cs :=
  lowerChars_cons isBoundary_open cs

theorem lowerChars_close_cons (cs : List Char) : lowerChars (')' :: cs) = ')' :: lowerChars cs :=
  lowerChars_cons isBoundary_close cs

theorem lowerChars_open_mark {c : Char} (h : IsMark c) (body : List Char) :
    lowerChars ('(' :: c :: body) = '(' :: c :: lowerChars body := by
  rw [lowerChars_open_cons, lowerChars_cons (isBoundary_of_isMark h)]

theorem lowerChars_equality (name value rest : List Char) :
    lowerChars ('(' :: (name ++ '=' :: (value ++ ')' :: rest))) =
      '(' :: (lowerChars name ++ '=' :: (lowerChars value ++ ')' :: lowerChars rest)) := by
  rw [lowerChars_open_cons, lowerChars_append_cons isBoundary_equals,
    lowerChars_append_cons isBoundary_close]

-- ---------------------------------------------------------------------------
-- The canonical text
-- ---------------------------------------------------------------------------

/-- What follows a derivable text has no part in its lower-case form. -/
theorem Derives.lowerChars_append {t : List Char} {f : Filter} (h : Derives t f)
    (u : List Char) : lowerChars (t ++ u) = lowerChars t ++ lowerChars u := by
  obtain ⟨body, rfl⟩ := h.exists_close
  rw [lowerChars_concat isBoundary_close, List.append_assoc, List.append_assoc,
    List.singleton_append, List.singleton_append, lowerChars_append_cons isBoundary_close]

theorem lowerChars_group {c : Char} (h : IsMark c) (t : List Char) :
    lowerChars ('(' :: c :: (t ++ [')'])) = '(' :: c :: (lowerChars t ++ [')']) := by
  rw [lowerChars_open_mark h, lowerChars_concat isBoundary_close]

mutual

/-- The text of a filter is the lower-cased text from which it is derived. -/
theorem Derives.chars_eq {t : List Char} {f : Filter} (h : Derives t f) :
    f.chars = lowerChars t := by
  match h with
  | @Derives.equality name value hname hmark hvalue =>
    have hsource : (Pattern.ofText (String.ofList value)).source =
        lowerCase (String.ofList value) := rfl
    rw [chars, hsource, toList_lowerCase_ofList, toList_lowerCase_ofList, lowerChars_equality,
      lowerChars_nil]
  | .conjunction hs hne => rw [chars, hs.charsOfAll_eq, lowerChars_group (.inl rfl)]
  | .disjunction hs hne => rw [chars, hs.charsOfAll_eq, lowerChars_group (.inr (.inl rfl))]
  | .negation h => rw [chars, h.chars_eq, lowerChars_group (.inr (.inr rfl))]

/-- The text of members is the lower-cased text from which they are derived. -/
theorem DerivesAll.charsOfAll_eq {t : List Char} {fs : List Filter} (h : DerivesAll t fs) :
    charsOfAll fs = lowerChars t := by
  match h with
  | .nil => rw [charsOfAll, lowerChars_nil]
  | .cons h hs => rw [charsOfAll, h.lowerChars_append, h.chars_eq, hs.charsOfAll_eq]

end

/-- The text of a filter that was read is the text it was read from, in lower case and without the
blanks around it. -/
theorem render_of_parse {text : String} {f : Filter} (h : parse text = .ok f) :
    f.render = lowerCase (trim text) := by
  rw [parse_eq_ok_iff_read, readFilter_nil_iff_derives] at h
  rw [render, h.1.chars_eq, lowerCase, trim, String.toList_ofList]

-- ---------------------------------------------------------------------------
-- Readers and letter case
-- ---------------------------------------------------------------------------

/-- What has been read, with the rest of the text in lower case. -/
def lowerRest {α : Type} (x : Except Condition (α × List Char)) :
    Except Condition (α × List Char) :=
  x.map fun p => (p.1, lowerChars p.2)

/-- An equality is the same if its name and value are in lower case already. -/
theorem equals_lowerChars (name value : List Char) :
    equals (String.ofList (lowerChars name)) (String.ofList (lowerChars value)) =
      equals (String.ofList name) (String.ofList value) := by
  have hlower : ∀ cs, lowerCase (String.ofList (lowerChars cs)) = lowerCase (String.ofList cs) := by
    intro cs
    rw [lowerCase, String.toList_ofList, lowerChars_lowerChars, ← toList_lowerCase_ofList,
      String.ofList_toList]
  have hpattern : Pattern.ofText (String.ofList (lowerChars value)) =
      .ofText (String.ofList value) := Pattern.ext_source (hlower value)
  rw [equals, equals, hlower, hpattern]

/-- An equality in a lower-cased text was one before. -/
theorem exists_of_readEquality_lowerChars {s r : List Char} {f : Filter}
    (h : readEquality (lowerChars s) = .ok (f, r)) : ∃ q, readEquality s = .ok (f, q) := by
  obtain ⟨name', value', hname, hvalue, hs, rfl⟩ := readEquality_eq_ok_iff.mp h
  obtain ⟨s', rfl, hs'⟩ := (lowerChars_eq_cons_iff isBoundary_open).mp hs
  obtain ⟨name, s'', rfl, rfl, hs''⟩ := (lowerChars_eq_append_cons_iff isBoundary_equals).mp hs'
  obtain ⟨value, q, rfl, rfl, -⟩ := (lowerChars_eq_append_cons_iff isBoundary_close).mp hs''
  refine ⟨q, readEquality_eq_ok_iff.mpr ⟨name, value, ?_, ?_, rfl, equals_lowerChars name value⟩⟩
  · exact isName_lowerChars_iff.mp hname
  · exact isValue_lowerChars_iff.mp hvalue

/-- The reader of equalities finds the same in a lower-cased text. -/
theorem readEquality_lowerChars (s : List Char) :
    readEquality (lowerChars s) = lowerRest (readEquality s) := by
  cases h : readEquality s with
  | ok p =>
    obtain ⟨f, r⟩ := p
    obtain ⟨name, value, hname, hvalue, rfl, rfl⟩ := readEquality_eq_ok_iff.mp h
    have hname' : IsName (lowerChars name) := isName_lowerChars_iff.mpr hname
    have hvalue' : IsValue (lowerChars value) := isValue_lowerChars_iff.mpr hvalue
    exact readEquality_eq_ok_iff.mpr ⟨lowerChars name, lowerChars value, hname', hvalue',
      lowerChars_equality name value r, (equals_lowerChars name value).symm⟩
  -- only what is an equality in lower case has to be looked at: it was one before
  | error c =>
    obtain rfl := eq_of_readEquality_eq_error h
    cases h' : readEquality (lowerChars s) with
    | error c' =>
      obtain rfl := eq_of_readEquality_eq_error h'
      rfl
    | ok p =>
      obtain ⟨q, hq⟩ := exists_of_readEquality_lowerChars h'
      rw [h] at hq
      contradiction

/-- A lower-cased text has a mark if and only if the text had it before. -/
theorem marked_lowerChars_iff {s : List Char} : Marked (lowerChars s) ↔ Marked s := by
  constructor
  · rintro ⟨c, body, hs, hmark⟩
    obtain ⟨s', rfl, hs'⟩ := (lowerChars_eq_cons_iff isBoundary_open).mp hs
    obtain ⟨body', rfl, -⟩ := (lowerChars_eq_cons_iff (isBoundary_of_isMark hmark)).mp hs'
    exact ⟨c, body', rfl, hmark⟩
  · rintro ⟨c, body, rfl, hmark⟩
    exact ⟨c, lowerChars body, lowerChars_open_mark hmark body, hmark⟩

/-- The answer of the reader of negations when the member has been read. -/
def closeNegation (member : Filter) : List Char → Except Condition (Filter × List Char)
  | ')' :: rest => .ok (.negation member, rest)
  | _ => .error .negation

/-- A negation reads its member, and then what closes it. -/
theorem readNegation_eq_closeNegation {depth : Nat} (h : depth < maxDepth) (body : List Char) :
    readNegation depth ('(' :: '!' :: body) =
      (readFilter (depth + 1) body >>= fun p => closeNegation p.1 p.2) := by
  rw [readNegation_of_lt h]
  rfl

/-- What closes a negation is found in a lower-cased text if and only if it was there before. -/
theorem closeNegation_lowerChars (member : Filter) (r : List Char) :
    closeNegation member (lowerChars r) = lowerRest (closeNegation member r) := by
  by_cases hr : ∃ rest, r = ')' :: rest
  · obtain ⟨rest, rfl⟩ := hr
    rw [lowerChars_close_cons]
    rfl
  · rw [closeNegation, closeNegation]
    · rfl
    · exact not_exists.mp hr
    · exact lowerChars_ne_cons isBoundary_close (not_exists.mp hr)

/-- A reader finds the same in a lower-cased text, or refuses it for the same reason. The induction
is along the readers. -/
theorem reading_lowerChars (s : List Char) :
    (∀ depth, readFilter depth (lowerChars s) = lowerRest (readFilter depth s)) ∧
    ∀ k depth, readMembers k depth (lowerChars s) = lowerRest (readMembers k depth s) := by
  refine reading_induction
    (P := fun depth s => readFilter depth (lowerChars s) = lowerRest (readFilter depth s))
    (Q := fun k depth s => readMembers k depth (lowerChars s) = lowerRest (readMembers k depth s))
    ?group ?negation ?unmarked ?nil ?close ?cons s
  case group =>
    intro k depth body ih
    rw [lowerChars_open_mark (isMark_symbol k), readFilter_group, readFilter_group]
    rcases Nat.lt_or_ge depth maxDepth with hd | hd
    · rw [readGroup_of_lt hd, readGroup_of_lt hd, ih]
      cases readMembers k (depth + 1) body with
      | error c => rfl
      | ok p =>
        obtain ⟨members, r⟩ := p
        cases members <;> rfl
    · rw [readGroup_of_le hd, readGroup_of_le hd]
      rfl
  case negation =>
    intro depth body ih
    rw [lowerChars_open_mark (.inr (.inr rfl)), readFilter_negation, readFilter_negation]
    rcases Nat.lt_or_ge depth maxDepth with hd | hd
    · rw [readNegation_eq_closeNegation hd, readNegation_eq_closeNegation hd, ih]
      cases readFilter (depth + 1) body with
      | error c => rfl
      | ok p => exact closeNegation_lowerChars p.1 p.2
    · rw [readNegation_of_le hd, readNegation_of_le hd]
      rfl
  case unmarked =>
    intro depth s hmark
    have hmark' : ¬Marked (lowerChars s) := marked_lowerChars_iff.not.mpr hmark
    by_cases hs : ∃ body, s = '(' :: body
    · obtain ⟨body, rfl⟩ := hs
      have hequality := readEquality_lowerChars ('(' :: body)
      rw [lowerChars_open_cons] at hmark' hequality ⊢
      rw [readFilter_equality hmark', readFilter_equality hmark, hequality]
    · have hs' := lowerChars_ne_cons isBoundary_open (not_exists.mp hs)
      rw [readFilter_of_ne hs', readFilter_of_ne (not_exists.mp hs)]
      rfl
  case nil =>
    intro k depth
    show readMembers k depth [] = _
    rw [readMembers_nil]
    rfl
  case close =>
    intro k depth rest
    rw [lowerChars_close_cons, readMembers_close, readMembers_close]
    rfl
  case cons =>
    intro k depth c cs hc ihMember ihRest
    have hne : lowerChars (c :: cs) ≠ [] := lowerFrom_ne_nil (List.cons_ne_nil c cs)
    obtain ⟨d, ds, hd⟩ := List.exists_cons_of_ne_nil hne
    -- the first character in lower case is no parenthesis either
    have hd' : d ≠ ')' := by
      rintro rfl
      refine lowerChars_ne_cons isBoundary_close ?_ ds hd
      exact fun back hback => hc (List.cons.inj hback).1
    rw [hd, readMembers_cons hd', ← hd, ihMember, readMembers_cons hc]
    cases hf : readFilter depth (c :: cs) with
    | error e => rfl
    | ok p =>
      obtain ⟨member, r⟩ := p
      show (readMembers k depth (lowerChars r) >>= _) = _
      rw [ihRest member r hf]
      show _ = lowerRest (readMembers k depth r >>= _)
      cases readMembers k depth r <;> rfl

/-- The reader of filters finds the same in a lower-cased text, or refuses it for the same
reason. -/
theorem readFilter_lowerChars (depth : Nat) (s : List Char) :
    readFilter depth (lowerChars s) = lowerRest (readFilter depth s) :=
  (reading_lowerChars s).1 depth

-- ---------------------------------------------------------------------------
-- Whole texts
-- ---------------------------------------------------------------------------

/-- The answer for a text of which a filter, or none, was read from the front. -/
def whole : Except Condition (Filter × List Char) → Except FilterError Filter
  | .error c => .error (.notA c)
  | .ok (f, []) => .ok f
  | .ok (_, _ :: _) => .error (.notA .any)

/-- A text is read if a filter is read from its front and nothing is left. -/
theorem parse_eq_whole (text : String) :
    parse text = whole (readFilter 0 (trimChars text.toList)) := by
  rw [parse, readFilter]
  cases filterAt 0 (trimChars text.toList) with
  | error c => rfl
  | ok p =>
    obtain ⟨f, ⟨r, hr⟩⟩ := p
    cases r <;> rfl

/-- The answer for a whole text is the same if the rest is put in lower case. -/
theorem whole_lowerRest (x : Except Condition (Filter × List Char)) :
    whole (lowerRest x) = whole x := by
  cases x with
  | error c => rfl
  | ok p =>
    obtain ⟨f, r⟩ := p
    cases r with
    | nil => rfl
    | cons c cs =>
      have hne : lowerChars (c :: cs) ≠ [] := lowerFrom_ne_nil (List.cons_ne_nil c cs)
      obtain ⟨d, ds, hd⟩ := List.exists_cons_of_ne_nil hne
      show whole (.ok (f, lowerChars (c :: cs))) = _
      rw [hd]
      rfl

theorem parse_lowerCase (text : String) : parse (lowerCase text) = parse text := by
  rw [parse_eq_whole, parse_eq_whole, lowerCase, String.toList_ofList, trimChars_lowerChars,
    readFilter_lowerChars, whole_lowerRest]

/-- The canonical text of a filter is the text it was read from, in lower case as a whole and
without the blanks around it. Texts that are the same in lower case are read as the same filter, or
they are refused with the same error. -/
theorem parse_ignores_letterCase :
    (∀ (text : String) (f : Filter), parse text = .ok f → f.render = lowerCase (trim text)) ∧
      ∀ s t : String, lowerCase s = lowerCase t → parse s = parse t := by
  refine ⟨fun text f => render_of_parse, ?_⟩
  intro s t h
  calc parse s = parse (lowerCase s) := (parse_lowerCase s).symm
    _ = parse (lowerCase t) := by rw [h]
    _ = parse t := parse_lowerCase t

/-- A sigma at the end of a value ends a word, whether the value is brought to lower case or the
whole text; and a text that breaks off is refused in either case. -/
theorem parse_ignores_letterCase_sigma :
    parse " (UID=ΟΔΟΣ)" = .ok (equals "UID" "ΟΔΟΣ") ∧
      (equals "UID" "ΟΔΟΣ").render = "(uid=οδος)" ∧
      parse "(&(UID=ΟΔΟΣ)" = parse "(&(uid=οδος)" := by
  have hparse : parse " (UID=ΟΔΟΣ)" = .ok (equals "UID" "ΟΔΟΣ") := by decide +kernel
  have hlower : lowerCase (trim " (UID=ΟΔΟΣ)") = "(uid=οδος)" := by decide +kernel
  have hsame : lowerCase "(&(UID=ΟΔΟΣ)" = lowerCase "(&(uid=οδος)" := by decide +kernel
  obtain ⟨hrender, hcase⟩ := parse_ignores_letterCase
  exact ⟨hparse, (hrender _ _ hparse).trans hlower, hcase _ _ hsame⟩

end UserDirectory.Filter
