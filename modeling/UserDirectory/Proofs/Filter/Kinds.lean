import UserDirectory.Proofs.Filter.Locality

/-!
# UserDirectory — readers of one kind and the reader of any

A filter may be asked for by its kind or whatever its kind is. The two ways agree, but for one
corner: a text such as `(&a=b)` is an equality for the reader of equalities, whose names may start
with any character but a parenthesis or `=`, while the reader of any kind takes it for a conjunction
that has no member where the first one should be.

## Results

* `misplaced_iff`                 — the offsets that are refused, whichever kind is asked for.
* `readOf_any_eq_ok_iff`          — what is read whatever its kind is read as what it looks like.
* `readFilter_of_marked_equality` — the corner: an equality whose name starts with a mark.
* `parseAt_kinds_agree`           — all of this for an expression and an offset into it.
-/

namespace UserDirectory.Filter

open Text

-- ---------------------------------------------------------------------------
-- Offsets
-- ---------------------------------------------------------------------------

/-- Whether an offset does not point between two characters of the expression. -/
inductive Misplaced (expression : String) (offset : Int) : Prop where
  /-- It points before the expression. -/
  | negative (h : offset < 0)
  /-- It points behind the expression. -/
  | beyond (h : byteLength expression.toList < offset)
  /-- It points into a character. -/
  | inside {front back : List Char} {c : Char} (hs : expression.toList = front ++ c :: back)
      (hstart : byteLength front < offset) (hend : offset < byteLength front + c.utf8Size)

/-- The bad offsets are those beyond the text and those into a character. -/
theorem suffixAt_eq_none_iff {cs : List Char} {n : Nat} :
    suffixAt cs n = none ↔ byteLength cs < n ∨ ∃ front c back, cs = front ++ c :: back ∧
      byteLength front < n ∧ n < byteLength front + c.utf8Size := by
  induction cs generalizing n with
  | nil =>
    cases n with
    | zero => simp
    | succ n => simp [suffixAt]
  | cons c cs ih =>
    cases n with
    | zero => simp
    | succ n =>
      rw [suffixAt]
      · -- either the first character is passed, or the offset points into it
        by_cases hle : c.utf8Size ≤ n + 1
        · rw [if_pos hle, ih, byteLength_cons]
          refine or_congr (by omega) ?_
          constructor
          · rintro ⟨front, d, back, rfl, hstart, hend⟩
            exact ⟨c :: front, d, back, rfl, by rw [byteLength_cons]; omega,
              by rw [byteLength_cons]; omega⟩
          · rintro ⟨front, d, back, hs, hstart, hend⟩
            cases front with
            | nil =>
              obtain ⟨rfl, rfl⟩ := List.cons.inj hs
              rw [byteLength_nil] at hend
              omega
            | cons e front =>
              obtain ⟨rfl, rfl⟩ := List.cons.inj hs
              rw [byteLength_cons] at hstart hend
              exact ⟨front, d, back, rfl, by omega, by omega⟩
        · rw [if_neg hle]
          refine iff_of_true rfl (.inr ⟨[], c, cs, rfl, ?_, ?_⟩)
          · rw [byteLength_nil]
            omega
          · rw [byteLength_nil]
            omega
      · simp

/-- An offset is refused if and only if it does not point between two characters. -/
theorem misplaced_iff {expression : String} {offset : Int} :
    Misplaced expression offset ↔ startAt expression.toList offset = none := by
  cases offset with
  | negSucc n =>
    exact iff_of_true (.negative (Int.negSucc_lt_zero n)) rfl
  | ofNat n =>
    have hnat : startAt expression.toList (Int.ofNat n) = suffixAt expression.toList n := rfl
    rw [hnat, suffixAt_eq_none_iff]
    constructor
    · intro h
      cases h with
      | negative h => exact absurd h (Int.not_lt.mpr (Int.natCast_nonneg n))
      | beyond h => exact .inl (Int.ofNat_lt.mp h)
      | inside hs hstart hend =>
        exact .inr ⟨_, _, _, hs, Int.ofNat_lt.mp hstart, Int.ofNat_lt.mp hend⟩
    · rintro (h | ⟨front, c, back, hs, hstart, hend⟩)
      · exact .beyond (Int.ofNat_lt.mpr h)
      · exact .inside hs (Int.ofNat_lt.mpr hstart) (Int.ofNat_lt.mpr hend)

-- ---------------------------------------------------------------------------
-- Readers
-- ---------------------------------------------------------------------------

/-- The kind of filter that a text looks like. -/
def kindOf : List Char → Condition
  | '(' :: '&' :: _ => .conjunction
  | '(' :: '|' :: _ => .disjunction
  | '(' :: '!' :: _ => .negation
  | _ => .equality

section

variable {kind : Condition} {s : List Char} {p q : Filter × List Char}

theorem kindOf_ne_any (s : List Char) : kindOf s ≠ .any := by
  fun_cases kindOf s <;> simp

theorem kindOf_group (k : Connective) (body : List Char) :
    kindOf ('(' :: k.symbol :: body) = k.condition := by
  cases k <;> rfl

/-- A text without a mark looks like an equality. -/
theorem kindOf_eq_equality_iff : kindOf s = .equality ↔ ¬Marked s := by
  constructor
  · intro h hmark
    rcases marked_iff.mp hmark with ⟨k, body, rfl⟩ | ⟨body, rfl⟩
    · rw [kindOf_group] at h
      cases k <;> contradiction
    · contradiction
  · intro h
    fun_cases kindOf s with
    | case1 body => exact absurd ⟨_, body, rfl, .inl rfl⟩ h
    | case2 body => exact absurd ⟨_, body, rfl, .inr (.inl rfl)⟩ h
    | case3 body => exact absurd ⟨_, body, rfl, .inr (.inr rfl)⟩ h
    | case4 => rfl

theorem readOf_group (k : Connective) (s : List Char) : readOf k.condition s = readGroup k 0 s := by
  cases k <;> rfl

/-- A filter of any kind is read by the reader for what it looks like. -/
theorem readOf_any_of_open (body : List Char) :
    readOf .any ('(' :: body) = readOf (kindOf ('(' :: body)) ('(' :: body) := by
  have hany : readOf .any ('(' :: body) = readFilter 0 ('(' :: body) := rfl
  rw [hany]
  by_cases hmark : Marked ('(' :: body)
  · rcases marked_iff.mp hmark with ⟨k, body', hs⟩ | ⟨body', hs⟩
    · rw [hs, kindOf_group, readFilter_group, readOf_group]
    · rw [hs, readFilter_negation]
      rfl
  · rw [kindOf_eq_equality_iff.mpr hmark, readFilter_equality hmark]
    rfl

/-- The reader of conjunctions, disjunctions or negations goes by the mark. -/
theorem kindOf_of_readOf (hany : kind ≠ .any) (hequality : kind ≠ .equality)
    (h : readOf kind s = .ok p) : kindOf s = kind := by
  have hgroup : ∀ k : Connective, readOf k.condition s = .ok p → kindOf s = k.condition := by
    intro k hk
    rw [readOf_group] at hk
    obtain ⟨body, members, rfl, -⟩ := readGroup_eq_ok_iff.mp hk
    exact kindOf_group k body
  cases kind with
  | any => exact absurd rfl hany
  | equality => exact absurd rfl hequality
  | conjunction => exact hgroup .all h
  | disjunction => exact hgroup .some h
  | negation =>
    obtain ⟨body, member, rfl, -⟩ := readNegation_eq_ok_iff.mp h
    rfl

/-- Whatever is read starts with an opening parenthesis. -/
theorem exists_open_of_readOf (h : readOf kind s = .ok p) : ∃ body, s = '(' :: body := by
  by_cases hequality : kind = .equality
  · subst hequality
    obtain ⟨name, value, -, -, hs, -⟩ := readEquality_eq_ok_iff.mp h
    exact ⟨_, hs⟩
  by_cases hany : kind = .any
  · subst hany
    by_contra hs
    have hnone : readFilter 0 s = .error .any := readFilter_of_ne (not_exists.mp hs)
    exact absurd (hnone.symm.trans h) (by simp)
  · have hmark : Marked s := by
      by_contra hmark
      have hkind := kindOf_of_readOf hany hequality h
      exact hequality (hkind.symm.trans (kindOf_eq_equality_iff.mpr hmark))
    obtain ⟨c, body, rfl, -⟩ := hmark
    exact ⟨_, rfl⟩

/-- An equality whose name starts with a mark is no filter for the reader of any kind, which looks
for a member behind the mark. -/
theorem readFilter_of_marked_equality {depth : Nat} (hdepth : depth < maxDepth) (hmark : Marked s)
    (h : readEquality s = .ok p) : readFilter depth s = .error .any := by
  obtain ⟨name, value, hname, -, hs, -⟩ := readEquality_eq_ok_iff.mp h
  obtain ⟨c, cs, rfl⟩ := List.exists_cons_of_ne_nil hname.ne_nil
  -- a parenthesis cannot be what follows the mark, in the name or at its end
  obtain ⟨d, back, hback, hopen, hclose⟩ : ∃ d back,
      cs ++ '=' :: (value ++ ')' :: p.2) = d :: back ∧ d ≠ '(' ∧ d ≠ ')' := by
    cases cs with
    | nil => exact ⟨'=', _, rfl, by decide, by decide⟩
    | cons d cs =>
      refine ⟨d, _, rfl, ?_, ?_⟩
      · rintro rfl
        exact hname.noOpen (by simp)
      · rintro rfl
        exact hname.noClose (by simp)
  have hbody : s = '(' :: c :: d :: back := by rw [hs, List.cons_append, hback]
  have hmember : readFilter (depth + 1) (d :: back) = .error .any :=
    readFilter_of_ne fun body he => hopen (List.cons.inj he).1
  rcases marked_iff.mp hmark with ⟨k, body, hk⟩ | ⟨body, hk⟩
  · obtain rfl : body = d :: back :=
      (List.cons.inj (List.cons.inj (hk.symm.trans hbody)).2).2
    rw [hk, readFilter_group, readGroup_of_lt hdepth, readMembers_cons hclose, hmember]
    rfl
  · obtain rfl : body = d :: back :=
      (List.cons.inj (List.cons.inj (hk.symm.trans hbody)).2).2
    rw [hk, readFilter_negation, readNegation_of_lt hdepth, hmember]
    rfl

/-- What is read as a conjunction, a disjunction or a negation is read whatever its kind. -/
theorem readOf_any_of_readOf (hany : kind ≠ .any) (hequality : kind ≠ .equality)
    (h : readOf kind s = .ok p) : readOf .any s = .ok p := by
  have hkind := kindOf_of_readOf hany hequality h
  obtain ⟨body, rfl⟩ := exists_open_of_readOf h
  rw [readOf_any_of_open, hkind, h]

/-- The first character of its name decides what an equality is for the reader of any kind. -/
theorem exists_first_of_readEquality (h : readEquality s = .ok p) :
    ∃ c body, s = '(' :: c :: body ∧ (¬IsMark c → readOf .any s = .ok p) ∧
      (IsMark c → readOf .any s = .error .any) := by
  obtain ⟨name, value, hname, -, hs, -⟩ := readEquality_eq_ok_iff.mp h
  obtain ⟨c, cs, rfl⟩ := List.exists_cons_of_ne_nil hname.ne_nil
  rw [List.cons_append] at hs
  refine ⟨c, _, hs, fun hc => ?_, fun hc => ?_⟩
  · have hmark : ¬Marked s := by
      rintro ⟨d, body, hd, hmark⟩
      obtain ⟨rfl, -⟩ := List.cons.inj (List.cons.inj (hd.symm.trans hs)).2
      exact hc hmark
    have hkind := kindOf_eq_equality_iff.mpr hmark
    rw [hs] at h hkind ⊢
    rw [readOf_any_of_open, hkind]
    exact h
  · exact readFilter_of_marked_equality (show 0 < maxDepth by decide) ⟨c, _, hs, hc⟩ h

/-- What is read whatever its kind is read as what it looks like, and as no other kind. -/
theorem readOf_any_eq_ok_iff :
    readOf .any s = .ok p ↔ readOf (kindOf s) s = .ok p ∧
      ∀ other, other ≠ .any → other ≠ kindOf s → ∀ q, readOf other s ≠ .ok q := by
  constructor
  · intro h
    obtain ⟨body, rfl⟩ := exists_open_of_readOf h
    refine ⟨by rw [← readOf_any_of_open, h], fun other hany hkind q hother => ?_⟩
    -- a marked text is an equality to its own reader alone, which the reader of any kind refuses;
    -- any other kind shows in the text
    by_cases hequality : other = .equality
    · subst hequality
      have hmark : Marked ('(' :: body) := by
        by_contra hmark
        exact hkind (kindOf_eq_equality_iff.mpr hmark).symm
      have hnone := readFilter_of_marked_equality (show 0 < maxDepth by decide) hmark hother
      exact absurd (hnone.symm.trans h) (by simp)
    · exact hkind (kindOf_of_readOf hany hequality hother).symm
  · rintro ⟨h, -⟩
    obtain ⟨body, rfl⟩ := exists_open_of_readOf h
    rw [readOf_any_of_open, h]

end

-- ---------------------------------------------------------------------------
-- Answers
-- ---------------------------------------------------------------------------

section

variable {expression : String} {offset : Int}

/-- A bad offset is refused, whichever kind is asked for. -/
theorem parseAt_of_misplaced (h : Misplaced expression offset) (kind : Condition) :
    parseAt kind expression offset = .error (.badOffset offset (byteLength expression.toList)) := by
  rw [parseAt, misplaced_iff.mp h]

/-- At a good offset, each answer hangs on what is read of the text from there on. -/
theorem exists_parseAt_eq (h : ¬Misplaced expression offset) :
    ∃ n s, startAt expression.toList offset = some s ∧
      ∀ kind, parseAt kind expression offset = answerFrom n s (readOf kind s) := by
  rw [misplaced_iff] at h
  obtain ⟨s, hs⟩ := Option.ne_none_iff_exists'.mp h
  cases offset with
  | negSucc n => contradiction
  | ofNat n =>
    obtain ⟨front, hexpression, rfl⟩ := suffixAt_eq_some_iff.mp hs
    -- the expression is split at the offset, so that the reading is one from the start of its
    -- second part
    have hsplit : expression = String.ofList front ++ String.ofList s := by
      rw [← String.toList_inj, String.toList_append, String.toList_ofList, String.toList_ofList,
        hexpression]
    refine ⟨byteLength front, s, hs, fun kind => ?_⟩
    have hanswer := parseAt_append kind (String.ofList front) (String.ofList s)
    rw [String.toList_ofList, String.toList_ofList, ← hsplit] at hanswer
    exact hanswer

theorem not_misplaced_of_parseAt {kind : Condition} {answer : Filter × Nat}
    (h : parseAt kind expression offset = .ok answer) : ¬Misplaced expression offset := by
  intro hbad
  rw [parseAt_of_misplaced hbad] at h
  contradiction

/-- At a good offset no reader complains of it. -/
theorem parseAt_ne_badOffset (h : ¬Misplaced expression offset) (kind : Condition) (o : Int)
    (length : Nat) : parseAt kind expression offset ≠ .error (.badOffset o length) := by
  obtain ⟨n, s, -, hanswer⟩ := exists_parseAt_eq h
  rw [hanswer]
  cases readOf kind s with
  | error c => exact nofun
  | ok p => exact nofun

end

/-- The readers of one kind and the reader of any refuse the same offsets, which are those before
and behind the expression and those into a character. What is read whatever its kind is read by one
of the others, in the same way. What is read as a conjunction, a disjunction or a negation is read
whatever its kind. So is an equality, unless its name starts with a mark: then the reader of any
kind finds no filter behind the mark. -/
theorem parseAt_kinds_agree (expression : String) (offset : Int) :
    (∀ kind, (Misplaced expression offset → parseAt kind expression offset =
        .error (.badOffset offset (byteLength expression.toList))) ∧
      (¬Misplaced expression offset →
        ∀ o length, parseAt kind expression offset ≠ .error (.badOffset o length))) ∧
    (∀ answer, parseAt .any expression offset = .ok answer →
      ∃ kind, kind ≠ .any ∧ parseAt kind expression offset = .ok answer ∧
        ∀ other, other ≠ .any → other ≠ kind →
          ∀ answer', parseAt other expression offset ≠ .ok answer') ∧
    (∀ kind, kind ≠ .any → kind ≠ .equality →
      ∀ answer, parseAt kind expression offset = .ok answer →
        parseAt .any expression offset = .ok answer) ∧
    ∀ answer, parseAt .equality expression offset = .ok answer →
      ∃ c body, startAt expression.toList offset = some ('(' :: c :: body) ∧
        (¬IsMark c → parseAt .any expression offset = .ok answer) ∧
        (IsMark c → parseAt .any expression offset = .error (.notA .any)) := by
  refine ⟨fun kind => ⟨fun h => parseAt_of_misplaced h kind, fun h => parseAt_ne_badOffset h kind⟩,
    ?any, ?group, ?equality⟩
  -- the kind is the one that the text looks like
  case any =>
    rintro ⟨f, last⟩ h
    obtain ⟨n, s, -, hanswer⟩ := exists_parseAt_eq (not_misplaced_of_parseAt h)
    simp only [hanswer] at h ⊢
    obtain ⟨r, hread, hlast⟩ := answerFrom_eq_ok_iff.mp h
    obtain ⟨hkind, hothers⟩ := readOf_any_eq_ok_iff.mp hread
    refine ⟨kindOf s, kindOf_ne_any s, answerFrom_eq_ok_iff.mpr ⟨r, hkind, hlast⟩, ?_⟩
    rintro other hany hne ⟨g, last'⟩ hother
    obtain ⟨r', hread', -⟩ := answerFrom_eq_ok_iff.mp hother
    exact hothers other hany hne _ hread'
  case group =>
    rintro kind hany hequality ⟨f, last⟩ h
    obtain ⟨n, s, -, hanswer⟩ := exists_parseAt_eq (not_misplaced_of_parseAt h)
    rw [hanswer] at h ⊢
    obtain ⟨r, hread, hlast⟩ := answerFrom_eq_ok_iff.mp h
    exact answerFrom_eq_ok_iff.mpr ⟨r, readOf_any_of_readOf hany hequality hread, hlast⟩
  -- the character behind the parenthesis decides whether the reader of any kind takes it for a mark
  case equality =>
    rintro ⟨f, last⟩ h
    obtain ⟨n, s, hstart, hanswer⟩ := exists_parseAt_eq (not_misplaced_of_parseAt h)
    rw [hanswer] at h ⊢
    obtain ⟨r, hread, hlast⟩ := answerFrom_eq_ok_iff.mp h
    obtain ⟨c, body, rfl, hplain, hmarked⟩ := exists_first_of_readEquality hread
    refine ⟨c, body, hstart, fun hc => ?_, fun hc => ?_⟩
    · exact answerFrom_eq_ok_iff.mpr ⟨r, hplain hc, hlast⟩
    · rw [hmarked hc]
      rfl

/-- An equality whose name starts with a mark, a disjunction, and an offset into a character. -/
theorem parseAt_kinds_agree_marked :
    let expression := "é(&a=b)(|(a=b))"
    Misplaced expression 1 ∧ parseAt .negation expression 1 = .error (.badOffset 1 16) ∧
    parseAt .equality expression 2 = .ok (equals "&a" "b", 8) ∧
    parseAt .any expression 2 = .error (.notA .any) ∧
    parseAt .disjunction expression 8 = .ok (.disjunction [equals "a" "b"], 16) ∧
    parseAt .any expression 8 = .ok (.disjunction [equals "a" "b"], 16) ∧
    ∃ kind, kind ≠ .any ∧ parseAt kind expression 8 = .ok (.disjunction [equals "a" "b"], 16) ∧
      ∀ other, other ≠ .any → other ≠ kind →
        ∀ answer', parseAt other expression 8 ≠ .ok answer' := by
  intro expression
  have hsplit : expression.toList = [] ++ 'é' :: "(&a=b)(|(a=b))".toList := by decide +kernel
  -- the second byte of `é` is no place to start
  have hinside : Misplaced expression 1 := .inside hsplit (by decide) (by decide)
  have hequality : parseAt .equality expression 2 = .ok (equals "&a" "b", 8) := by decide +kernel
  have hdisjunction : parseAt .disjunction expression 8 =
      .ok (.disjunction [equals "a" "b"], 16) := by decide +kernel
  have hlength : byteLength expression.toList = 16 := by decide +kernel
  obtain ⟨hoffset, -, -, -⟩ := parseAt_kinds_agree expression 1
  obtain ⟨-, -, -, hmarked⟩ := parseAt_kinds_agree expression 2
  obtain ⟨-, hone, hgroup, -⟩ := parseAt_kinds_agree expression 8
  have hany := hgroup .disjunction (by decide) (by decide) _ hdisjunction
  have hrefused := (hoffset .negation).1 hinside
  rw [hlength] at hrefused
  refine ⟨hinside, hrefused, hequality, ?_, hdisjunction, hany, hone _ hany⟩
  obtain ⟨c, body, hstart, -, hfails⟩ := hmarked _ hequality
  have hmark : c = '&' := by
    have hbehind : startAt expression.toList 2 = some "(&a=b)(|(a=b))".toList := by decide +kernel
    rw [hbehind] at hstart
    exact (List.cons.inj (List.cons.inj (Option.some.inj hstart)).2).1.symm
  exact hfails (.inl hmark)

end UserDirectory.Filter
