import UserDirectory.Proofs.Filter.Reading

/-!
# UserDirectory — the grammar of filters

The grammar says which texts are filters, and which filter each of them is:

    filter ::= '(&' filter+ ')' | '(|' filter+ ')' | '(!' filter ')' | '(' name '=' value ')'

`Derives` and `DerivesAll` are its derivations. They know nothing of offsets, of open levels or of
the order in which a text is read. The nesting limit stands beside the grammar (`Filter.nesting`).

## Results

* `readFilter_eq_ok_iff_derives` — the reader takes a derivable text off the front, of at most the
  nesting that the open levels leave, and leaves the rest alone.
* `parse_eq_ok_iff`              — what is accepted as a whole are the derivable texts, with blanks
  around them, of at most 128 levels.
-/

namespace UserDirectory.Filter

open Text

-- ---------------------------------------------------------------------------
-- Derivations
-- ---------------------------------------------------------------------------

mutual

/-- `Derives t f`: the grammar derives the text `t` as the filter `f`. -/
inductive Derives : List Char → Filter → Prop where
  /-- `(name=value)`, of which both sides are kept in lower case. -/
  | equality {name value : List Char} (hname : IsName name) (hmark : ∀ c ∈ name.head?, ¬IsMark c)
      (hvalue : IsValue value) :
      Derives ('(' :: (name ++ '=' :: (value ++ [')'])))
        (.equality (lowerCase (String.ofList name)) (.ofText (String.ofList value)))
  /-- `(&filter+)`. -/
  | conjunction {t : List Char} {members : List Filter} (h : DerivesAll t members)
      (hne : members ≠ []) : Derives ('(' :: '&' :: (t ++ [')'])) (.conjunction members)
  /-- `(|filter+)`. -/
  | disjunction {t : List Char} {members : List Filter} (h : DerivesAll t members)
      (hne : members ≠ []) : Derives ('(' :: '|' :: (t ++ [')'])) (.disjunction members)
  /-- `(!filter)`. -/
  | negation {t : List Char} {member : Filter} (h : Derives t member) :
      Derives ('(' :: '!' :: (t ++ [')'])) (.negation member)

/-- `DerivesAll t fs`: the text `t` is made of texts that the grammar derives as the filters `fs`,
one after the other. -/
inductive DerivesAll : List Char → List Filter → Prop where
  | nil : DerivesAll [] []
  | cons {t u : List Char} {f : Filter} {fs : List Filter} (h : Derives t f)
      (hs : DerivesAll u fs) : DerivesAll (t ++ u) (f :: fs)

end

mutual

/-- How many conjunctions, disjunctions and negations there are on the longest path of the tree. -/
def nesting : Filter → Nat
  | .equality .. => 0
  | .conjunction members => nestingAll members + 1
  | .disjunction members => nestingAll members + 1
  | .negation member => nesting member + 1

/-- The largest nesting of the filters. -/
def nestingAll : List Filter → Nat
  | [] => 0
  | f :: fs => max (nesting f) (nestingAll fs)

end

/-- Conjunctions and disjunctions are derived alike. -/
theorem Derives.group {k : Connective} {t : List Char} {members : List Filter}
    (h : DerivesAll t members) (hne : members ≠ []) :
    Derives ('(' :: k.symbol :: (t ++ [')'])) (k.join members) := by
  cases k with
  | all => exact .conjunction h hne
  | some => exact .disjunction h hne

theorem nesting_join (k : Connective) (members : List Filter) :
    (k.join members).nesting = nestingAll members + 1 := by
  cases k <;> rw [Connective.join, nesting]

/-- A derivable text opens with a parenthesis. -/
theorem Derives.exists_open {t : List Char} {f : Filter} (h : Derives t f) :
    ∃ body, t = '(' :: body := by
  cases h with
  | equality => exact ⟨_, rfl⟩
  | conjunction => exact ⟨_, rfl⟩
  | disjunction => exact ⟨_, rfl⟩
  | negation => exact ⟨_, rfl⟩

theorem Derives.exists_open_of_append {front rest : List Char} {f : Filter}
    (h : Derives (front ++ rest) f) (hne : front ≠ []) : ∃ body, front = '(' :: body := by
  obtain ⟨c, cs, rfl⟩ := List.exists_cons_of_ne_nil hne
  obtain ⟨body, ht⟩ := h.exists_open
  exact ⟨cs, by rw [(List.cons.inj ht).1]⟩

/-- A derivable text closes with a parenthesis. -/
theorem Derives.exists_close {t : List Char} {f : Filter} (h : Derives t f) :
    ∃ body, t = body ++ [')'] := by
  cases h with
  | @equality name value => exact ⟨'(' :: (name ++ '=' :: value), by simp⟩
  | @conjunction t => exact ⟨'(' :: '&' :: t, rfl⟩
  | @disjunction t => exact ⟨'(' :: '|' :: t, rfl⟩
  | @negation t => exact ⟨'(' :: '!' :: t, rfl⟩

/-- An equality of the grammar does not look like a filter of another kind. -/
theorem not_marked_iff {name : List Char} (hname : IsName name) (rest : List Char) :
    ¬Marked ('(' :: (name ++ rest)) ↔ ∀ c ∈ name.head?, ¬IsMark c := by
  obtain ⟨c, cs, rfl⟩ := List.exists_cons_of_ne_nil hname.ne_nil
  constructor
  · intro h d hd hmark
    cases hd
    exact h ⟨_, _, rfl, hmark⟩
  · rintro h ⟨d, body, he, hmark⟩
    obtain ⟨rfl, -⟩ := List.cons.inj (List.cons.inj he).2
    exact h _ rfl hmark

-- ---------------------------------------------------------------------------
-- What is read is derivable
-- ---------------------------------------------------------------------------

/-- What the readers take from a text is derived by the grammar, as the filter that they give, and has
no more levels than those that are not open yet. -/
theorem derives_of_read (s : List Char) :
    (∀ depth f r, readFilter depth s = .ok (f, r) →
      ∃ t, s = t ++ r ∧ Derives t f ∧ f.nesting ≤ maxDepth - depth) ∧
    ∀ k depth fs r, readMembers k depth s = .ok (fs, r) →
      ∃ t, s = t ++ ')' :: r ∧ DerivesAll t fs ∧ nestingAll fs ≤ maxDepth - depth := by
  -- both readers at once, along their own recursion: with `depth` levels open, `maxDepth - depth`
  -- more may follow
  refine reading_induction
    (P := fun depth s => ∀ f r, readFilter depth s = .ok (f, r) →
      ∃ t, s = t ++ r ∧ Derives t f ∧ f.nesting ≤ maxDepth - depth)
    (Q := fun k depth s => ∀ fs r, readMembers k depth s = .ok (fs, r) →
      ∃ t, s = t ++ ')' :: r ∧ DerivesAll t fs ∧ nestingAll fs ≤ maxDepth - depth)
    ?group ?negation ?unmarked ?nil ?close ?cons s
  case group =>
    intro k depth body ih f r h
    rw [readFilter_group, readGroup_eq_ok_iff] at h
    obtain ⟨body', members, he, hd, hm, hne, rfl⟩ := h
    obtain rfl : body = body' := (List.cons.inj (List.cons.inj he).2).2
    obtain ⟨t, rfl, ht, hn⟩ := ih members r hm
    refine ⟨'(' :: k.symbol :: (t ++ [')']), by simp, .group ht hne, ?_⟩
    rw [nesting_join]
    omega
  case negation =>
    intro depth body ih f r h
    rw [readFilter_negation, readNegation_eq_ok_iff] at h
    obtain ⟨body', member, he, hd, hm, rfl⟩ := h
    obtain rfl : body = body' := (List.cons.inj (List.cons.inj he).2).2
    obtain ⟨t, rfl, ht, hn⟩ := ih member (')' :: r) hm
    refine ⟨'(' :: '!' :: (t ++ [')']), by simp, .negation ht, ?_⟩
    rw [nesting]
    omega
  -- without a mark only the equality is left; the other two readers need one
  case unmarked =>
    intro depth s hmark f r h
    rw [readFilter_eq_ok_iff] at h
    rcases h with ⟨k, h⟩ | h | ⟨-, h⟩
    · obtain ⟨body, -, rfl, -⟩ := readGroup_eq_ok_iff.mp h
      exact absurd (marked_iff.mpr (.inl ⟨k, body, rfl⟩)) hmark
    · obtain ⟨body, -, rfl, -⟩ := readNegation_eq_ok_iff.mp h
      exact absurd (marked_iff.mpr (.inr ⟨body, rfl⟩)) hmark
    · obtain ⟨name, value, hname, hvalue, rfl, rfl⟩ := readEquality_eq_ok_iff.mp h
      refine ⟨'(' :: (name ++ '=' :: (value ++ [')'])), by simp, ?_, ?_⟩
      · exact .equality hname ((not_marked_iff hname _).mp hmark) hvalue
      · rw [equals, nesting]
        omega
  case nil =>
    intro k depth fs r h
    rw [readMembers_nil] at h
    simp at h
  case close =>
    intro k depth rest fs r h
    rw [readMembers_close] at h
    simp only [Except.ok.injEq, Prod.mk.injEq] at h
    obtain ⟨rfl, rfl⟩ := h
    exact ⟨[], rfl, .nil, Nat.zero_le _⟩
  case cons =>
    intro k depth c cs hc ihMember ihRest fs r h
    obtain ⟨member, q, members, hf, hm, rfl⟩ := (readMembers_cons_eq_ok_iff hc).mp h
    obtain ⟨t, ht, hd, hn⟩ := ihMember member q hf
    obtain ⟨u, rfl, hds, hns⟩ := ihRest member q hf members r hm
    refine ⟨t ++ u, by rw [ht, List.append_assoc], .cons hd hds, ?_⟩
    rw [nestingAll]
    omega

-- ---------------------------------------------------------------------------
-- What is derivable is read
-- ---------------------------------------------------------------------------

/-- A group is read if its members are. -/
theorem read_of_members {k : Connective} {t r : List Char} {members : List Filter} {depth : Nat}
    (hm : readMembers k (depth + 1) (t ++ ')' :: r) = .ok (members, r)) (hne : members ≠ [])
    (hd : depth < maxDepth) :
    readFilter depth ('(' :: k.symbol :: (t ++ [')']) ++ r) = .ok (k.join members, r) := by
  rw [show '(' :: k.symbol :: (t ++ [')']) ++ r = '(' :: k.symbol :: (t ++ ')' :: r) by simp,
    readFilter_group, readGroup_eq_ok_iff]
  exact ⟨_, _, rfl, hd, hm, hne, rfl⟩

mutual

/-- A derivable text is read off the front, if the nesting that is left suffices for it. -/
theorem read_of_derives {t : List Char} {f : Filter} {depth : Nat} (h : Derives t f)
    (hn : f.nesting ≤ maxDepth - depth) (r : List Char) :
    readFilter depth (t ++ r) = .ok (f, r) := by
  -- the recursion is on the derivation; each level that is opened is one that `hn` still allows
  match h with
  | @Derives.equality name value hname hmark hvalue =>
    rw [show '(' :: (name ++ '=' :: (value ++ [')'])) ++ r =
      '(' :: (name ++ '=' :: (value ++ ')' :: r)) by simp,
      readFilter_equality ((not_marked_iff hname _).mpr hmark)]
    exact readEquality_eq_ok_iff.mpr ⟨name, value, hname, hvalue, rfl, rfl⟩
  | .conjunction hs hne =>
    rw [nesting] at hn
    exact read_of_members (k := .all) (readMembers_of_derives .all hs (by omega) r) hne (by omega)
  | .disjunction hs hne =>
    rw [nesting] at hn
    exact read_of_members (k := .some) (readMembers_of_derives .some hs (by omega) r) hne (by omega)
  | @Derives.negation t member h =>
    rw [nesting] at hn
    rw [show '(' :: '!' :: (t ++ [')']) ++ r = '(' :: '!' :: (t ++ ')' :: r) by simp,
      readFilter_negation, readNegation_eq_ok_iff]
    exact ⟨_, _, rfl, by omega, read_of_derives h (by omega) (')' :: r), rfl⟩

/-- Texts in a row that are derivable are read as members up to the parenthesis behind them. -/
theorem readMembers_of_derives {t : List Char} {fs : List Filter} {depth : Nat} (k : Connective)
    (h : DerivesAll t fs) (hn : nestingAll fs ≤ maxDepth - depth) (r : List Char) :
    readMembers k depth (t ++ ')' :: r) = .ok (fs, r) := by
  match h with
  | .nil => exact readMembers_close k depth r
  | @DerivesAll.cons t u f fs h hs =>
    rw [nestingAll] at hn
    have hmember : f.nesting ≤ maxDepth - depth := by omega
    have hmembers : nestingAll fs ≤ maxDepth - depth := by omega
    have hf := read_of_derives h hmember (u ++ ')' :: r)
    have hm := readMembers_of_derives k hs hmembers r
    -- what opens with a parenthesis does not end the members
    obtain ⟨body, rfl⟩ := h.exists_open
    rw [List.append_assoc, List.cons_append, readMembers_cons_eq_ok_iff (by decide)]
    exact ⟨f, _, fs, hf, hm, rfl⟩

end

/-- A derivable text in front of other members is one more member. -/
theorem readMembers_append {t : List Char} {f : Filter} {depth : Nat} (h : Derives t f)
    (hn : f.nesting ≤ maxDepth - depth) (k : Connective) (r : List Char) :
    readMembers k depth (t ++ r) =
      (readMembers k depth r >>= fun (members, q) => .ok (f :: members, q)) := by
  have hmember := read_of_derives h hn r
  obtain ⟨body, rfl⟩ := h.exists_open
  rw [List.cons_append] at hmember ⊢
  rw [readMembers_cons (by decide), hmember]
  rfl

/-- The reader takes the texts off the front that are derivable with the nesting that is left. -/
theorem readFilter_eq_ok_iff_derives {depth : Nat} {s r : List Char} {f : Filter} :
    readFilter depth s = .ok (f, r) ↔
      ∃ t, s = t ++ r ∧ Derives t f ∧ f.nesting ≤ maxDepth - depth := by
  constructor
  · exact (derives_of_read s).1 depth f r
  · rintro ⟨t, rfl, h, hn⟩
    exact read_of_derives h hn r

/-- A text is accepted if a filter is read from it, without the blanks around it, and nothing is
left. -/
theorem parse_eq_ok_iff_read {text : String} {f : Filter} :
    parse text = .ok f ↔ readFilter 0 (trimChars text.toList) = .ok (f, []) := by
  rw [parse, readFilter, plain_eq_ok_iff]
  constructor
  · intro h
    split at h
    · simp at h
    · next f' hr heq =>
      simp only [Except.ok.injEq] at h
      rw [← h]
      exact ⟨_, heq, rfl⟩
    · simp at h
  · rintro ⟨⟨q, hq⟩, h, hnil⟩
    simp only at hnil
    subst hnil
    rw [h]

/-- The whole of a text is read if it is derivable as a tree that is not nested too deeply. -/
theorem readFilter_nil_iff_derives {s : List Char} {f : Filter} :
    readFilter 0 s = .ok (f, []) ↔ Derives s f ∧ f.nesting ≤ maxDepth := by
  rw [readFilter_eq_ok_iff_derives]
  constructor
  · rintro ⟨t, ht, h, hn⟩
    rw [List.append_nil] at ht
    rw [ht]
    exact ⟨h, hn⟩
  · rintro ⟨h, hn⟩
    exact ⟨s, (List.append_nil s).symm, h, hn⟩

/-- A text is accepted as a filter if and only if the grammar derives it, without the blanks around
it, as that filter, and no path of the tree has more than 128 conjunctions, disjunctions and
negations. -/
theorem parse_eq_ok_iff (text : String) (f : Filter) :
    parse text = .ok f ↔ Derives (trimChars text.toList) f ∧ f.nesting ≤ 128 := by
  rw [parse_eq_ok_iff_read, readFilter_nil_iff_derives, maxDepth]

end UserDirectory.Filter
