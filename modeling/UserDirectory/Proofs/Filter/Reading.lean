import Mathlib.Data.List.TakeDrop
import Mathlib.Data.List.TakeWhile
import UserDirectory.Filter.Parser

/-!
# UserDirectory — what the readers of filters accept

The readers give back what is left of the text together with a proof that it is shorter. Here the
proof is dropped (`plain`), and one lemma for each reader says when it accepts and what it gives
then. Nothing else has to look into a reader.

## Results

* `readEquality_eq_ok_iff`    — an equality: a name, `=`, a value, and the first `)`.
* `readGroup_eq_ok_iff`       — a conjunction or disjunction: its mark, and at least one member.
* `readNegation_eq_ok_iff`    — a negation: its mark, one member and a `)`.
* `readMembers_cons_eq_ok_iff` — one member and then the others.
* `readFilter_eq_ok_iff`      — a filter of any kind is one of these.
-/

namespace UserDirectory.Filter

open Text

/-- What a reader gives, without the proof that the rest is shorter. -/
def plain {α : Type} {s : List Char} (x : Except Condition (α × Rest s)) :
    Except Condition (α × List Char) :=
  x.map fun p => (p.1, p.2.1)

/-- Read a filter of any kind. -/
def readFilter (depth : Nat) (s : List Char) : Except Condition (Filter × List Char) :=
  plain (filterAt depth s)

/-- Read an equality. -/
def readEquality (s : List Char) : Except Condition (Filter × List Char) := plain (equalityAt s)

/-- Read a conjunction or disjunction. -/
def readGroup (k : Connective) (depth : Nat) (s : List Char) :
    Except Condition (Filter × List Char) :=
  plain (groupAt k depth s)

/-- Read a negation. -/
def readNegation (depth : Nat) (s : List Char) : Except Condition (Filter × List Char) :=
  plain (negationAt depth s)

/-- Read members up to the closing parenthesis, which is read too. -/
def readMembers (k : Connective) (depth : Nat) (s : List Char) :
    Except Condition (List Filter × List Char) :=
  plain (membersAt k depth s)

/-- Dropping the proof changes neither what is read nor what is left. -/
theorem plain_eq_ok_iff {α : Type} {s r : List Char} {x : Except Condition (α × Rest s)} {a : α} :
    plain x = .ok (a, r) ↔ ∃ q, x = .ok (a, q) ∧ q.1 = r := by
  cases x with
  | error c => simp [plain, Except.map]
  | ok p =>
    obtain ⟨b, q⟩ := p
    simp only [plain, Except.map, Except.ok.injEq, Prod.mk.injEq]
    constructor
    · rintro ⟨rfl, rfl⟩
      exact ⟨q, ⟨rfl, rfl⟩, rfl⟩
    · rintro ⟨q', ⟨rfl, rfl⟩, rfl⟩
      exact ⟨rfl, rfl⟩

theorem bind_eq_ok_iff {ε α β : Type} {x : Except ε α} {g : α → Except ε β} {b : β} :
    (x >>= g) = .ok b ↔ ∃ a, x = .ok a ∧ g a = .ok b := by
  cases x <;> simp [bind, Except.bind]

-- ---------------------------------------------------------------------------
-- Equalities
-- ---------------------------------------------------------------------------

/-- A text that may stand before the `=` of an equality. -/
structure IsName (name : List Char) : Prop where
  ne_nil : name ≠ []
  noEquals : '=' ∉ name
  noOpen : '(' ∉ name
  noClose : ')' ∉ name

/-- A text that may stand behind the `=` of an equality. -/
structure IsValue (value : List Char) : Prop where
  noOpen : '(' ∉ value
  noClose : ')' ∉ value

/-- What is read up to a `)` ends at the first one. -/
theorem untilClose_eq_some {s inside : List Char} {r : Rest s}
    (h : untilClose s = some (inside, r)) : s = inside ++ ')' :: r.1 ∧ ')' ∉ inside := by
  fun_induction untilClose s generalizing inside with
  | case1 => simp at h
  | case2 s =>
    simp only [Option.some.injEq, Prod.mk.injEq] at h
    obtain ⟨rfl, rfl⟩ := h
    simp
  | case3 c s hc ih =>
    obtain ⟨⟨inside', r'⟩, h', he⟩ := Option.map_eq_some_iff.mp h
    simp only [Prod.mk.injEq] at he
    obtain ⟨rfl, rfl⟩ := he
    obtain ⟨hs, hn⟩ := ih h'
    refine ⟨congrArg (c :: ·) hs, ?_⟩
    rw [List.mem_cons, not_or]
    exact ⟨fun he => hc he.symm, hn⟩

/-- A text with a `)` in it is read up to the first one. -/
theorem untilClose_of_eq {s inside rest : List Char} (hs : s = inside ++ ')' :: rest)
    (h : ')' ∉ inside) : ∃ r, untilClose s = some (inside, r) ∧ r.1 = rest := by
  subst hs
  induction inside with
  | nil => exact ⟨_, rfl, rfl⟩
  | cons c inside ih =>
    rw [List.mem_cons, not_or] at h
    obtain ⟨r, hr, hrest⟩ := ih h.2
    refine ⟨r.cons c, ?_, hrest⟩
    show untilClose (c :: (inside ++ ')' :: rest)) = _
    rw [untilClose, hr]
    · rfl
    · exact fun hc => h.1 hc.symm

/-- A text is cut at the first occurrence of a character. -/
theorem span_ne_eq_iff {x : Char} {s front back : List Char} :
    s.span (· != x) = (front, x :: back) ↔ s = front ++ x :: back ∧ x ∉ front := by
  rw [List.span_eq_takeWhile_dropWhile, Prod.mk.injEq]
  constructor
  · rintro ⟨rfl, hback⟩
    refine ⟨?_, fun hm => ?_⟩
    · rw [← hback, List.takeWhile_append_dropWhile]
    · simpa using List.mem_takeWhile_imp hm
  · rintro ⟨rfl, hx⟩
    have hall : ∀ c ∈ front, (c != x) = true := by
      intro c hc
      rw [bne_iff_ne]
      rintro rfl
      exact hx hc
    rw [List.takeWhile_append_of_pos hall, List.dropWhile_append_of_pos hall]
    simp

/-- The inside of an equality is split at its first `=`. -/
theorem splitAssertion_eq_some_iff {inside name value : List Char} :
    splitAssertion inside = some (name, value) ↔
      inside = name ++ '=' :: value ∧ name ≠ [] ∧ '=' ∉ name ∧ '(' ∉ inside := by
  rw [splitAssertion]
  constructor
  · intro h
    split at h
    · simp at h
    · next hopen =>
      split at h
      · simp at h
      · next hne hspan =>
        simp only [Option.some.injEq, Prod.mk.injEq] at h
        obtain ⟨rfl, rfl⟩ := h
        obtain ⟨hs, hname⟩ := span_ne_eq_iff.mp hspan
        exact ⟨hs, fun h0 => hne h0, hname, hopen⟩
      · simp at h
  · rintro ⟨hs, hne, hname, hopen⟩
    rw [if_neg hopen, span_ne_eq_iff.mpr ⟨hs, hname⟩]
    obtain ⟨c, cs, rfl⟩ := List.exists_cons_of_ne_nil hne
    rfl

/-- An equality ends at the first `)`, and its name at the first `=`. -/
theorem readEquality_eq_ok_iff {s r : List Char} {f : Filter} :
    readEquality s = .ok (f, r) ↔ ∃ name value, IsName name ∧ IsValue value ∧
      s = '(' :: (name ++ '=' :: (value ++ ')' :: r)) ∧
      f = equals (String.ofList name) (String.ofList value) := by
  rw [readEquality, plain_eq_ok_iff]
  constructor
  -- what is read: up to the first `)`, then split at the first `=`
  · rintro ⟨q, h, rfl⟩
    rw [equalityAt.eq_def] at h
    split at h
    · next body =>
      split at h
      · simp at h
      · next inside r hclose =>
        obtain ⟨hbody, hnoClose⟩ := untilClose_eq_some hclose
        split at h
        · simp at h
        · next name value hsplit =>
          obtain ⟨rfl, hne, hnoEquals, hnoOpen⟩ := splitAssertion_eq_some_iff.mp hsplit
          simp only [Except.ok.injEq, Prod.mk.injEq] at h
          obtain ⟨rfl, rfl⟩ := h
          simp only [List.mem_append, List.mem_cons, not_or] at hnoClose hnoOpen
          refine ⟨name, value, ⟨hne, hnoEquals, hnoOpen.1, hnoClose.1⟩,
            ⟨hnoOpen.2.2, hnoClose.2.2⟩, ?_, rfl⟩
          rw [List.append_assoc, List.cons_append] at hbody
          exact congrArg ('(' :: ·) hbody
    · simp at h
  · rintro ⟨name, value, hname, hvalue, rfl, rfl⟩
    have hsplit := splitAssertion_eq_some_iff.mpr
      ⟨(rfl : name ++ '=' :: value = _), hname.ne_nil, hname.noEquals, by
        simp [hname.noOpen, hvalue.noOpen]⟩
    -- the first `)` is the one behind the value
    have hs : name ++ '=' :: (value ++ ')' :: r) = (name ++ '=' :: value) ++ ')' :: r := by
      rw [List.append_assoc, List.cons_append]
    obtain ⟨q, hclose, hq⟩ := untilClose_of_eq hs (by simp [hname.noClose, hvalue.noClose])
    refine ⟨q.cons '(', ?_, hq⟩
    rw [equalityAt, hclose]
    simp only [hsplit]

/-- An equality is refused as an equality, never for what is inside of it. -/
theorem eq_of_readEquality_eq_error {s : List Char} {c : Condition}
    (h : readEquality s = .error c) : c = .equality := by
  rw [readEquality, equalityAt.eq_def] at h
  split at h
  · split at h
    · exact (Except.error.inj h).symm
    · split at h
      · exact (Except.error.inj h).symm
      · simp [plain, Except.map] at h
  · exact (Except.error.inj h).symm

/-- Without a `)` there is no equality. -/
theorem readEquality_of_noClose {s : List Char} (h : ')' ∉ s) : readEquality s = .error .equality := by
  cases hread : readEquality s with
  | error c => rw [eq_of_readEquality_eq_error hread]
  | ok p =>
    obtain ⟨name, value, -, -, rfl, -⟩ := readEquality_eq_ok_iff.mp hread
    exact absurd (by simp) h

-- ---------------------------------------------------------------------------
-- Conjunctions and disjunctions
-- ---------------------------------------------------------------------------

/-- Where groups may be opened, a group reads its members one level deeper, and needs at least
one. -/
theorem readGroup_of_lt {k : Connective} {depth : Nat} (h : depth < maxDepth) (body : List Char) :
    readGroup k depth ('(' :: k.symbol :: body) =
      (readMembers k (depth + 1) body >>= fun (members, r) =>
        if members.isEmpty then .error k.condition else .ok (k.join members, r)) := by
  rw [readGroup, groupAt, if_neg (not_not.mpr rfl), if_neg (Nat.not_le.mpr h), readMembers]
  cases membersAt k (depth + 1) body with
  | error c => rfl
  | ok p =>
    obtain ⟨members, q⟩ := p
    cases members <;> rfl

/-- Where no more groups may be opened, a group is refused. -/
theorem readGroup_of_le {k : Connective} {depth : Nat} (h : maxDepth ≤ depth) (s : List Char) :
    readGroup k depth s = .error k.condition := by
  rw [readGroup, groupAt.eq_def]
  split
  · simp only [if_pos h, ite_self]
    rfl
  · rfl

/-- A text that does not start with the mark of the kind is refused. -/
theorem readGroup_of_ne {k : Connective} {depth : Nat} {s : List Char}
    (h : ∀ body, s ≠ '(' :: k.symbol :: body) : readGroup k depth s = .error k.condition := by
  rw [readGroup, groupAt.eq_def]
  split
  · next o body =>
    have ho : o ≠ k.symbol := by
      rintro rfl
      exact h body rfl
    rw [if_pos ho]
    rfl
  · rfl

/-- A group is its mark and at least one member, where groups may be opened. -/
theorem readGroup_eq_ok_iff {k : Connective} {depth : Nat} {s r : List Char} {f : Filter} :
    readGroup k depth s = .ok (f, r) ↔ ∃ body members, s = '(' :: k.symbol :: body ∧
      depth < maxDepth ∧ readMembers k (depth + 1) body = .ok (members, r) ∧ members ≠ [] ∧
      f = k.join members := by
  constructor
  · intro h
    -- the three checks in turn: the mark, the depth, and at least one member
    by_cases hs : ∃ body, s = '(' :: k.symbol :: body
    · obtain ⟨body, rfl⟩ := hs
      rcases Nat.lt_or_ge depth maxDepth with hd | hd
      · rw [readGroup_of_lt hd] at h
        obtain ⟨⟨members, q⟩, hm, h⟩ := bind_eq_ok_iff.mp h
        cases members with
        | nil => simp at h
        | cons m ms =>
          simp only [List.isEmpty_cons, Bool.false_eq_true, if_false, Except.ok.injEq,
            Prod.mk.injEq] at h
          obtain ⟨rfl, rfl⟩ := h
          exact ⟨body, m :: ms, rfl, hd, hm, List.cons_ne_nil _ _, rfl⟩
      · rw [readGroup_of_le hd] at h
        simp at h
    · rw [readGroup_of_ne (not_exists.mp hs)] at h
      simp at h
  · rintro ⟨body, members, rfl, hd, hm, hne, rfl⟩
    rw [readGroup_of_lt hd, hm]
    cases members with
    | nil => exact absurd rfl hne
    | cons m ms => rfl

-- ---------------------------------------------------------------------------
-- Members
-- ---------------------------------------------------------------------------

theorem readMembers_nil (k : Connective) (depth : Nat) :
    readMembers k depth [] = .error k.condition := by
  rw [readMembers, membersAt]
  rfl

theorem readMembers_close (k : Connective) (depth : Nat) (rest : List Char) :
    readMembers k depth (')' :: rest) = .ok ([], rest) := by
  rw [readMembers, membersAt]
  rfl

/-- Whatever is no `)` starts a member, and the other members follow it. -/
theorem readMembers_cons {c : Char} (hc : c ≠ ')') (k : Connective) (depth : Nat)
    (cs : List Char) :
    readMembers k depth (c :: cs) =
      (readFilter depth (c :: cs) >>= fun (member, r) =>
        readMembers k depth r >>= fun (members, q) => .ok (member :: members, q)) := by
  rw [readMembers, membersAt, readFilter]
  · cases filterAt depth (c :: cs) with
    | error e => rfl
    | ok p =>
      obtain ⟨member, r⟩ := p
      show plain (membersAt k depth r.1 >>= _) = (plain (membersAt k depth r.1) >>= _)
      cases membersAt k depth r.1 <;> rfl
  · exact fun h => hc h

/-- Members are refused if the first of them is. -/
theorem readMembers_of_error {k : Connective} {depth : Nat} {body : List Char} {c : Condition}
    (h : readFilter depth ('(' :: body) = .error c) :
    readMembers k depth ('(' :: body) = .error c := by
  rw [readMembers_cons (by decide), h]
  rfl

/-- Members are accepted if the first one is, and then the others. -/
theorem readMembers_cons_eq_ok_iff {c : Char} (hc : c ≠ ')') {k : Connective} {depth : Nat}
    {cs r : List Char} {fs : List Filter} :
    readMembers k depth (c :: cs) = .ok (fs, r) ↔ ∃ member q members,
      readFilter depth (c :: cs) = .ok (member, q) ∧ readMembers k depth q = .ok (members, r) ∧
      fs = member :: members := by
  rw [readMembers_cons hc, bind_eq_ok_iff]
  constructor
  · rintro ⟨⟨member, q⟩, hf, h⟩
    obtain ⟨⟨members, r'⟩, hm, h⟩ := bind_eq_ok_iff.mp h
    simp only [Except.ok.injEq, Prod.mk.injEq] at h
    obtain ⟨rfl, rfl⟩ := h
    exact ⟨member, q, members, hf, hm, rfl⟩
  · rintro ⟨member, q, members, hf, hm, rfl⟩
    refine ⟨(member, q), hf, ?_⟩
    exact bind_eq_ok_iff.mpr ⟨(members, r), hm, rfl⟩

-- ---------------------------------------------------------------------------
-- Negations
-- ---------------------------------------------------------------------------

/-- Where groups may be opened, a negation reads its member one level deeper, and a `)` behind
it. -/
theorem readNegation_of_lt {depth : Nat} (h : depth < maxDepth) (body : List Char) :
    readNegation depth ('(' :: '!' :: body) =
      (readFilter (depth + 1) body >>= fun (member, r) =>
        match r with
        | ')' :: rest => .ok (.negation member, rest)
        | _ => .error .negation) := by
  rw [readNegation, negationAt, if_neg (Nat.not_le.mpr h), readFilter]
  cases filterAt (depth + 1) body with
  | error c => rfl
  | ok p =>
    obtain ⟨member, ⟨r, hr⟩⟩ := p
    cases r with
    | nil => rfl
    | cons c rest =>
      by_cases hc : c = ')'
      · subst hc
        rfl
      · have hne : ∀ rest', c :: rest ≠ ')' :: rest' := fun rest' h => hc (List.cons.inj h).1
        simp only [plain, bind, Except.bind, Except.map]
        rfl

/-- Where no more groups may be opened, a negation is refused. -/
theorem readNegation_of_le {depth : Nat} (h : maxDepth ≤ depth) (s : List Char) :
    readNegation depth s = .error .negation := by
  rw [readNegation, negationAt.eq_def]
  split
  · rw [if_pos h]
    rfl
  · rfl

/-- A text that does not start with the mark of a negation is refused. -/
theorem readNegation_of_ne {depth : Nat} {s : List Char} (h : ∀ body, s ≠ '(' :: '!' :: body) :
    readNegation depth s = .error .negation := by
  rw [readNegation, negationAt.eq_def]
  split
  · next body => exact absurd rfl (h body)
  · rfl

/-- A negation is its mark, one member and a `)`, where groups may be opened. -/
theorem readNegation_eq_ok_iff {depth : Nat} {s r : List Char} {f : Filter} :
    readNegation depth s = .ok (f, r) ↔ ∃ body member, s = '(' :: '!' :: body ∧
      depth < maxDepth ∧ readFilter (depth + 1) body = .ok (member, ')' :: r) ∧
      f = .negation member := by
  constructor
  · intro h
    -- the mark, the depth, and the parenthesis behind the member
    by_cases hs : ∃ body, s = '(' :: '!' :: body
    · obtain ⟨body, rfl⟩ := hs
      rcases Nat.lt_or_ge depth maxDepth with hd | hd
      · rw [readNegation_of_lt hd] at h
        obtain ⟨⟨member, q⟩, hm, h⟩ := bind_eq_ok_iff.mp h
        simp only at h
        split at h
        · simp only [Except.ok.injEq, Prod.mk.injEq] at h
          obtain ⟨rfl, rfl⟩ := h
          exact ⟨body, member, rfl, hd, hm, rfl⟩
        · simp at h
      · rw [readNegation_of_le hd] at h
        simp at h
    · rw [readNegation_of_ne (not_exists.mp hs)] at h
      simp at h
  · rintro ⟨body, member, rfl, hd, hm, rfl⟩
    rw [readNegation_of_lt hd, hm]
    rfl

-- ---------------------------------------------------------------------------
-- Filters of any kind
-- ---------------------------------------------------------------------------

/-- The mark of a conjunction, a disjunction or a negation. -/
def IsMark (c : Char) : Prop := c = '&' ∨ c = '|' ∨ c = '!'

theorem isMark_symbol (k : Connective) : IsMark k.symbol := by
  cases k with
  | all => exact .inl rfl
  | some => exact .inr (.inl rfl)

/-- Whether a text starts like a conjunction, a disjunction or a negation. -/
def Marked (s : List Char) : Prop := ∃ c body, s = '(' :: c :: body ∧ IsMark c

/-- A text with a mark starts like a group of some kind or like a negation. -/
theorem marked_iff {s : List Char} :
    Marked s ↔ (∃ k : Connective, ∃ body, s = '(' :: k.symbol :: body) ∨
      ∃ body, s = '(' :: '!' :: body := by
  constructor
  · rintro ⟨c, body, rfl, rfl | rfl | rfl⟩
    · exact .inl ⟨.all, body, rfl⟩
    · exact .inl ⟨.some, body, rfl⟩
    · exact .inr ⟨body, rfl⟩
  · rintro (⟨k, body, rfl⟩ | ⟨body, rfl⟩)
    · cases k with
      | all => exact ⟨_, body, rfl, .inl rfl⟩
      | some => exact ⟨_, body, rfl, .inr (.inl rfl)⟩
    · exact ⟨_, body, rfl, .inr (.inr rfl)⟩

theorem readFilter_group (k : Connective) (depth : Nat) (body : List Char) :
    readFilter depth ('(' :: k.symbol :: body) = readGroup k depth ('(' :: k.symbol :: body) := by
  cases k with
  | all => rw [readFilter, Connective.symbol, filterAt, readGroup]
  | some => rw [readFilter, Connective.symbol, filterAt, readGroup]

theorem readFilter_negation (depth : Nat) (body : List Char) :
    readFilter depth ('(' :: '!' :: body) = readNegation depth ('(' :: '!' :: body) := by
  rw [readFilter, filterAt, readNegation]

/-- A text without a mark behind its opening parenthesis is read as an equality. -/
theorem readFilter_equality {depth : Nat} {body : List Char} (h : ¬Marked ('(' :: body)) :
    readFilter depth ('(' :: body) = readEquality ('(' :: body) := by
  rw [readFilter, filterAt, readEquality]
  · rintro body' rfl
    exact h ⟨_, body', rfl, .inl rfl⟩
  · rintro body' rfl
    exact h ⟨_, body', rfl, .inr (.inl rfl)⟩
  · rintro body' rfl
    exact h ⟨_, body', rfl, .inr (.inr rfl)⟩

/-- A filter starts with an opening parenthesis. -/
theorem readFilter_of_ne {depth : Nat} {s : List Char} (h : ∀ body, s ≠ '(' :: body) :
    readFilter depth s = .error .any := by
  rw [readFilter, filterAt.eq_def]
  split
  · exact absurd rfl (h _)
  · exact absurd rfl (h _)
  · exact absurd rfl (h _)
  · exact absurd rfl (h _)
  · rfl

/-- What a filter is depends on the character behind its opening parenthesis. -/
theorem readFilter_eq_ok_iff {depth : Nat} {s r : List Char} {f : Filter} :
    readFilter depth s = .ok (f, r) ↔
      (∃ k, readGroup k depth s = .ok (f, r)) ∨ readNegation depth s = .ok (f, r) ∨
      ¬Marked s ∧ readEquality s = .ok (f, r) := by
  constructor
  · intro h
    by_cases hmark : Marked s
    · rcases marked_iff.mp hmark with ⟨k, body, rfl⟩ | ⟨body, rfl⟩
      · rw [readFilter_group] at h
        exact .inl ⟨k, h⟩
      · rw [readFilter_negation] at h
        exact .inr (.inl h)
    · by_cases hs : ∃ body, s = '(' :: body
      · obtain ⟨body, rfl⟩ := hs
        rw [readFilter_equality hmark] at h
        exact .inr (.inr ⟨hmark, h⟩)
      · rw [readFilter_of_ne (not_exists.mp hs)] at h
        simp at h
  · rintro (⟨k, h⟩ | h | ⟨hmark, h⟩)
    · obtain ⟨body, members, rfl, -⟩ := readGroup_eq_ok_iff.mp h
      rw [readFilter_group]
      exact h
    · obtain ⟨body, member, rfl, -⟩ := readNegation_eq_ok_iff.mp h
      rw [readFilter_negation]
      exact h
    · obtain ⟨name, value, -, -, rfl, -⟩ := readEquality_eq_ok_iff.mp h
      rw [readFilter_equality hmark]
      exact h

/-- A filter takes some of the text. -/
theorem length_lt_of_readFilter {depth : Nat} {s r : List Char} {f : Filter}
    (h : readFilter depth s = .ok (f, r)) : r.length < s.length := by
  obtain ⟨q, -, rfl⟩ := plain_eq_ok_iff.mp h
  exact q.2

/-- Induction along the readers: what holds of the body of a filter holds of the filter, and what
holds of a member and of the members behind it holds of them all. -/
theorem reading_induction {P : Nat → List Char → Prop} {Q : Connective → Nat → List Char → Prop}
    (group : ∀ k depth body, Q k (depth + 1) body → P depth ('(' :: k.symbol :: body))
    (negation : ∀ depth body, P (depth + 1) body → P depth ('(' :: '!' :: body))
    (unmarked : ∀ depth s, ¬Marked s → P depth s)
    (nil : ∀ k depth, Q k depth [])
    (close : ∀ k depth rest, Q k depth (')' :: rest))
    (cons : ∀ k depth c cs, c ≠ ')' → P depth (c :: cs) →
      (∀ f r, readFilter depth (c :: cs) = .ok (f, r) → Q k depth r) → Q k depth (c :: cs))
    (s : List Char) : (∀ depth, P depth s) ∧ ∀ k depth, Q k depth s := by
  -- on the length of the text; a member takes some of it, so what is behind it is shorter
  induction hn : s.length using Nat.strong_induction_on generalizing s with
  | _ n ih =>
    subst hn
    have hP : ∀ depth, P depth s := by
      intro depth
      by_cases hmark : Marked s
      · rcases marked_iff.mp hmark with ⟨k, body, rfl⟩ | ⟨body, rfl⟩
        · have hlt : body.length < ('(' :: k.symbol :: body).length := by
            simp only [List.length_cons]
            omega
          exact group k depth body ((ih body.length hlt body rfl).2 k _)
        · have hlt : body.length < ('(' :: '!' :: body).length := by
            simp only [List.length_cons]
            omega
          exact negation depth body ((ih body.length hlt body rfl).1 _)
      · exact unmarked depth s hmark
    refine ⟨hP, fun k depth => ?_⟩
    cases s with
    | nil => exact nil k depth
    | cons c cs =>
      by_cases hc : c = ')'
      · rw [hc]
        exact close k depth cs
      · refine cons k depth c cs hc (hP depth) fun f r h => ?_
        exact (ih r.length (length_lt_of_readFilter h) r rfl).2 k depth

end UserDirectory.Filter
