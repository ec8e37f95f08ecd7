import UserDirectory.Proofs.Filter.Grammar

/-!
# UserDirectory — filters in the middle of a text

A reader that is sent into a text looks at what stands there and no further than to the `)` at which
the filter ends. What comes before only moves the offsets, and what comes after makes no
difference. So no filter is the front of a longer one, and filters that stand in a row are read one
after the other.

## Results

* `stopsAtClose_readOf`    — a reader takes the same off the front whatever comes after it.
* `parseAt_append`         — what is answered in the middle of a text, by what stands there.
* `eq_empty_of_isWhole`    — no filter is the front of a longer one.
* `readsInTurn_of_isWhole` — filters in a row are read one after the other.
* `parseAt_local`          — all of this for each kind of filter.
-/

namespace UserDirectory.Filter

open Text

/-- Whether a reader looks no further than to the `)` at which it stops. -/
def StopsAtClose {α : Type} (read : List Char → Except Condition (α × List Char)) : Prop :=
  ∀ s a r, read s = .ok (a, r) →
    ∃ t, s = t ++ ')' :: r ∧ ∀ r', read (t ++ ')' :: r') = .ok (a, r')

/-- What the reader of the given kind gives, without the proof that the rest is shorter. -/
def readOf (kind : Condition) (s : List Char) : Except Condition (Filter × List Char) :=
  plain (readerOf kind s)

-- ---------------------------------------------------------------------------
-- What comes after
-- ---------------------------------------------------------------------------

theorem stopsAtClose_readEquality : StopsAtClose readEquality := by
  intro s f r h
  obtain ⟨name, value, hname, hvalue, rfl, rfl⟩ := readEquality_eq_ok_iff.mp h
  refine ⟨'(' :: (name ++ '=' :: value), by simp, fun r' => ?_⟩
  exact readEquality_eq_ok_iff.mpr ⟨name, value, hname, hvalue, by simp, rfl⟩

/-- The reader of filters stops at the `)` of the filter. -/
theorem stopsAtClose_readFilter (depth : Nat) : StopsAtClose (readFilter depth) := by
  intro s f r h
  obtain ⟨t, rfl, hderives, hnesting⟩ := readFilter_eq_ok_iff_derives.mp h
  obtain ⟨body, rfl⟩ := hderives.exists_close
  refine ⟨body, by simp, fun r' => ?_⟩
  rw [List.append_cons]
  exact read_of_derives hderives hnesting r'

theorem stopsAtClose_readMembers (k : Connective) (depth : Nat) :
    StopsAtClose (readMembers k depth) := by
  intro s members r h
  obtain ⟨t, rfl, hderives, hnesting⟩ := (derives_of_read s).2 k depth members r h
  exact ⟨t, rfl, readMembers_of_derives k hderives hnesting⟩

/-- The reader of conjunctions and disjunctions stops at the `)` behind the members. -/
theorem stopsAtClose_readGroup (k : Connective) (depth : Nat) :
    StopsAtClose (readGroup k depth) := by
  intro s f r h
  obtain ⟨body, members, rfl, hdepth, hmembers, hne, rfl⟩ := readGroup_eq_ok_iff.mp h
  obtain ⟨t, rfl, hrest⟩ := stopsAtClose_readMembers k (depth + 1) body members r hmembers
  refine ⟨'(' :: k.symbol :: t, rfl, fun r' => ?_⟩
  exact readGroup_eq_ok_iff.mpr ⟨_, members, rfl, hdepth, hrest r', hne, rfl⟩

/-- The reader of negations stops at the `)` behind the member. -/
theorem stopsAtClose_readNegation (depth : Nat) : StopsAtClose (readNegation depth) := by
  intro s f r h
  obtain ⟨body, member, rfl, hdepth, hmember, rfl⟩ := readNegation_eq_ok_iff.mp h
  -- the reader of the member stops at its own `)`, before the one of the negation
  obtain ⟨t, rfl, hrest⟩ := stopsAtClose_readFilter (depth + 1) body member _ hmember
  refine ⟨'(' :: '!' :: (t ++ [')']), by simp, fun r' => ?_⟩
  refine readNegation_eq_ok_iff.mpr ⟨t ++ ')' :: ')' :: r', member, by simp, hdepth, ?_, rfl⟩
  exact hrest (')' :: r')

/-- A reader takes the same off the front whatever comes after it. -/
theorem stopsAtClose_readOf (kind : Condition) : StopsAtClose (readOf kind) := by
  cases kind with
  | any => exact stopsAtClose_readFilter 0
  | equality => exact stopsAtClose_readEquality
  | conjunction => exact stopsAtClose_readGroup .all 0
  | disjunction => exact stopsAtClose_readGroup .some 0
  | negation => exact stopsAtClose_readNegation 0

-- ---------------------------------------------------------------------------
-- What comes before
-- ---------------------------------------------------------------------------

variable {kind : Condition}

/-- The answer to what a reader gives for the text `s`, which `n` bytes come before. -/
def answerFrom (n : Nat) (s : List Char) :
    Except Condition (Filter × List Char) → Except FilterError (Filter × Nat)
  | .error c => .error (.notA c)
  | .ok (f, r) => .ok (f, n + byteLength s - byteLength r)

/-- The answer is a filter if a reader gives one; its end is counted from what is left. -/
theorem answerFrom_eq_ok_iff {n last : Nat} {s : List Char} {f : Filter}
    {x : Except Condition (Filter × List Char)} :
    answerFrom n s x = .ok (f, last) ↔
      ∃ r, x = .ok (f, r) ∧ n + byteLength s - byteLength r = last := by
  cases x with
  | error c => simp [answerFrom]
  | ok p =>
    obtain ⟨g, r⟩ := p
    simp only [answerFrom, Except.ok.injEq, Prod.mk.injEq]
    constructor
    · rintro ⟨rfl, rfl⟩
      exact ⟨r, ⟨rfl, rfl⟩, rfl⟩
    · rintro ⟨_, ⟨rfl, rfl⟩, rfl⟩
      exact ⟨rfl, rfl⟩

/-- An offset that points behind a front of the text is a good one, and the answer hangs on what
follows. -/
theorem parseAt_append (kind : Condition) (p s : String) :
    parseAt kind (p ++ s) (byteLength p.toList) =
      answerFrom (byteLength p.toList) s.toList (readOf kind s.toList) := by
  have hstart : startAt (p ++ s).toList (byteLength p.toList) = some s.toList :=
    suffixAt_eq_some_iff.mpr ⟨p.toList, String.toList_append, rfl⟩
  rw [parseAt, hstart, String.toList_append, byteLength_append, readOf]
  simp only
  cases readerOf kind s.toList with
  | error c => rfl
  | ok p => rfl

/-- What is answered at the front of a text is what the reader gives for it. -/
theorem parseAt_zero (kind : Condition) (s : String) :
    parseAt kind s 0 = answerFrom 0 s.toList (readOf kind s.toList) := by
  have h := parseAt_append kind "" s
  rwa [String.empty_append] at h

/-- What comes before a text moves the end of the filter, and nothing else. -/
theorem parseAt_append_eq_map (kind : Condition) (p s : String) :
    parseAt kind (p ++ s) (byteLength p.toList) =
      (parseAt kind s 0).map fun (f, last) => (f, byteLength p.toList + last) := by
  rw [parseAt_append, parseAt_zero]
  cases hread : readOf kind s.toList with
  | error c => rfl
  | ok answer =>
    obtain ⟨f, r⟩ := answer
    obtain ⟨t, hs, -⟩ := stopsAtClose_readOf kind _ _ _ hread
    have hlen := congrArg byteLength hs
    rw [byteLength_append, byteLength_cons] at hlen
    simp only [answerFrom, Except.map, Except.ok.injEq, Prod.mk.injEq, true_and]
    omega

/-- The front of a text is always a good place. -/
theorem parseAt_zero_ne_badOffset (kind : Condition) (s : String) (offset : Int) (length : Nat) :
    parseAt kind s 0 ≠ .error (.badOffset offset length) := by
  rw [parseAt_zero]
  cases readOf kind s.toList with
  | error c => exact nofun
  | ok answer => exact nofun

/-- A text is read at its front up to a `)`, with the same answer whatever comes after that. -/
theorem exists_front_of_parseAt {s : String} {f : Filter} {last : Nat}
    (h : parseAt kind s 0 = .ok (f, last)) :
    ∃ front back : String, s = front ++ back ∧ byteLength front.toList = last ∧
      front.toList.getLast? = some ')' ∧ ∀ t, parseAt kind (front ++ t) 0 = .ok (f, last) := by
  rw [parseAt_zero] at h
  cases hread : readOf kind s.toList with
  | error c =>
    rw [hread] at h
    contradiction
  | ok answer =>
    obtain ⟨g, r⟩ := answer
    rw [hread] at h
    simp only [answerFrom, Except.ok.injEq, Prod.mk.injEq] at h
    obtain ⟨rfl, hlast⟩ := h
    obtain ⟨t, hs, hrest⟩ := stopsAtClose_readOf kind _ _ _ hread
    have hfront : ∀ u : String, (String.ofList (t ++ [')']) ++ u).toList = t ++ ')' :: u.toList := by
      intro u
      rw [String.toList_append, String.toList_ofList, ← List.append_cons]
    -- the end is counted from the back, where the texts differ: what is behind the `)` counts on
    -- both sides
    have hlen : ∀ u : List Char,
        byteLength (t ++ ')' :: u) = byteLength (t ++ [')']) + byteLength u := by
      intro u
      rw [List.append_cons, byteLength_append]
    refine ⟨String.ofList (t ++ [')']), String.ofList r, ?_, ?_, ?_, fun u => ?_⟩
    · rw [← String.toList_inj, hfront, String.toList_ofList, hs]
    · rw [String.toList_ofList]
      rw [hs, hlen] at hlast
      omega
    · rw [String.toList_ofList, List.getLast?_concat]
    · rw [parseAt_zero, hfront, hrest, answerFrom, hlen]
      rw [hs, hlen] at hlast
      simp only [Except.ok.injEq, Prod.mk.injEq, true_and]
      omega

-- ---------------------------------------------------------------------------
-- Filters in a row
-- ---------------------------------------------------------------------------

/-- Whether the text is a filter of the kind from its first character to its last one. -/
def IsWhole (kind : Condition) (text : String) (f : Filter) : Prop :=
  parseAt kind text 0 = .ok (f, byteLength text.toList)

/-- Filters that are read one after the other, each from where the one before it ends. -/
inductive ReadsInTurn (kind : Condition) (expression : String) : Nat → List Filter → Nat → Prop where
  | nil {n} : ReadsInTurn kind expression n [] n
  | cons {n m last : Nat} {f fs} (h : parseAt kind expression n = .ok (f, m))
      (hs : ReadsInTurn kind expression m fs last) : ReadsInTurn kind expression n (f :: fs) last

/-- Only the empty text takes no bytes. -/
theorem byteLength_eq_zero_iff {cs : List Char} : byteLength cs = 0 ↔ cs = [] := by
  cases cs with
  | nil => simp
  | cons c cs =>
    have hpos := c.utf8Size_pos
    simp only [byteLength_cons, reduceCtorEq, iff_false]
    omega

/-- The whole filters are the derivable texts of no more than the levels that may be open. -/
theorem isWhole_any_iff {text : String} {f : Filter} :
    IsWhole .any text f ↔ Derives text.toList f ∧ f.nesting ≤ maxDepth := by
  have hread : readOf .any text.toList = readFilter 0 text.toList := rfl
  rw [IsWhole, parseAt_zero, answerFrom_eq_ok_iff, hread, ← readFilter_nil_iff_derives]
  constructor
  · rintro ⟨r, h, hlength⟩
    obtain ⟨t, hs, -⟩ := stopsAtClose_readFilter 0 _ _ _ h
    have hnone : byteLength r = 0 := by
      rw [hs, byteLength_append, byteLength_cons] at hlength
      have hpos := Char.utf8Size_pos ')'
      omega
    rw [← byteLength_eq_zero_iff.mp hnone]
    exact h
  · exact fun h => ⟨[], h, by simp⟩

/-- Whatever comes after it, a whole filter is read up to its end. -/
theorem IsWhole.parseAt_append {text : String} {f : Filter} (h : IsWhole kind text f)
    (t : String) : parseAt kind (text ++ t) 0 = .ok (f, byteLength text.toList) := by
  obtain ⟨front, back, hs, hlen, -, hrest⟩ := exists_front_of_parseAt h
  have hback : back = "" := by
    rw [hs, String.toList_append, byteLength_append] at hlen
    rw [← String.toList_eq_nil_iff, ← byteLength_eq_zero_iff]
    omega
  rw [hback, String.append_empty] at hs
  rw [hs, hrest, hlen, hs]

/-- No filter is the front of a longer one. -/
theorem eq_empty_of_isWhole {s t : String} {f g : Filter} (hs : IsWhole kind s f)
    (hst : IsWhole kind (s ++ t) g) : t = "" := by
  have hends := (hs.parseAt_append t).symm.trans hst
  rw [String.toList_append, byteLength_append, Except.ok.injEq, Prod.mk.injEq] at hends
  rw [← String.toList_eq_nil_iff, ← byteLength_eq_zero_iff]
  omega

/-- A filter is the front of another one only if it is that one. -/
theorem eq_of_front_isWhole {s u : String} {f g : Filter} (hs : IsWhole kind s f)
    (hu : IsWhole kind u g) (hfront : s.toList <+: u.toList) : s = u := by
  obtain ⟨more, hmore⟩ := hfront
  have hlonger : u = s ++ String.ofList more := by
    rw [← String.toList_inj, String.toList_append, String.toList_ofList, hmore]
  have hnone := eq_empty_of_isWhole hs (hlonger ▸ hu)
  rw [hlonger, hnone, String.append_empty]

/-- A whole filter is read up to its end, whatever comes before and after it. -/
theorem IsWhole.parseAt_between {text : String} {f : Filter} (h : IsWhole kind text f)
    (before after : String) :
    parseAt kind (before ++ text ++ after) (byteLength before.toList) =
      .ok (f, byteLength (before ++ text).toList) := by
  rw [String.append_assoc, parseAt_append_eq_map, h.parseAt_append, String.toList_append,
    byteLength_append]
  rfl

/-- Filters in a row are read one after the other, whatever comes before and after them. -/
theorem readsInTurn_of_isWhole {texts : List String} {fs : List Filter}
    (h : List.Forall₂ (IsWhole kind) texts fs) (before after : String) :
    ReadsInTurn kind (before ++ String.join texts ++ after) (byteLength before.toList) fs
      (byteLength (before ++ String.join texts).toList) := by
  -- on the filters: each one that has been read is one more thing that comes before the others
  induction h generalizing before with
  | nil =>
    rw [String.join_nil, String.append_empty]
    exact .nil
  | @cons text f texts fs h hs ih =>
    have hfirst := h.parseAt_between before (String.join texts ++ after)
    have hothers := ih (before ++ text)
    rw [String.join_cons, ← String.append_assoc]
    rw [← String.append_assoc] at hfirst
    exact .cons hfirst hothers

/-- No filter is empty. -/
theorem IsWhole.ne_empty {text : String} {f : Filter} (h : IsWhole kind text f) : text ≠ "" := by
  rintro rfl
  obtain ⟨front, back, hs, -, hclose, -⟩ := exists_front_of_parseAt h
  obtain ⟨hfront, -⟩ := String.append_eq_empty_iff.mp hs.symm
  rw [hfront] at hclose
  contradiction

/-- A text is a row of filters in one way only. -/
theorem eq_of_join_eq {texts texts' : List String} (h : ∀ t ∈ texts, ∃ f, IsWhole kind t f)
    (h' : ∀ t ∈ texts', ∃ f, IsWhole kind t f) (hjoin : String.join texts = String.join texts') :
    texts = texts' := by
  induction texts generalizing texts' with
  | nil =>
    cases texts' with
    | nil => rfl
    | cons u texts' =>
      obtain ⟨g, hu⟩ := h' u List.mem_cons_self
      rw [String.join_nil, String.join_cons] at hjoin
      exact absurd (String.append_eq_empty_iff.mp hjoin.symm).1 hu.ne_empty
  | cons t texts ih =>
    obtain ⟨f, ht⟩ := h t List.mem_cons_self
    cases texts' with
    | nil =>
      rw [String.join_nil, String.join_cons] at hjoin
      exact absurd (String.append_eq_empty_iff.mp hjoin).1 ht.ne_empty
    | cons u texts' =>
      obtain ⟨g, hu⟩ := h' u List.mem_cons_self
      rw [String.join_cons, String.join_cons] at hjoin
      -- one of the first filters is the front of the other, since both are fronts of the same text
      have htu : t = u := by
        have ht' : t.toList <+: (u ++ String.join texts').toList := by
          rw [← hjoin, String.toList_append]
          exact List.prefix_append _ _
        have hu' : u.toList <+: (u ++ String.join texts').toList := by
          rw [String.toList_append]
          exact List.prefix_append _ _
        rcases List.prefix_or_prefix_of_prefix ht' hu' with hfront | hfront
        · exact eq_of_front_isWhole ht hu hfront
        · exact (eq_of_front_isWhole hu ht hfront).symm
      subst htu
      rw [String.append_right_inj] at hjoin
      rw [ih (fun v hv => h v (List.mem_cons_of_mem _ hv))
        (fun v hv => h' v (List.mem_cons_of_mem _ hv)) hjoin]

/-- For each kind of filter: what comes before a text moves the end of the filter and nothing else,
and without it no reader complains of the offset. A filter ends behind a `)`, between two characters
of the text, and is read in the same way whatever comes after it. So no filter is the front of a
longer one, a text is a row of filters in one way only, and filters in a row are read one after the
other. -/
theorem parseAt_local (kind : Condition) :
    (∀ p s : String, parseAt kind (p ++ s) (byteLength p.toList) =
      (parseAt kind s 0).map fun (f, last) => (f, byteLength p.toList + last)) ∧
    (∀ s offset length, parseAt kind s 0 ≠ .error (.badOffset offset length)) ∧
    (∀ s f last, parseAt kind s 0 = .ok (f, last) →
      0 < last ∧ last ≤ byteLength s.toList ∧
      ∃ front back : String, s = front ++ back ∧ byteLength front.toList = last ∧
        front.toList.getLast? = some ')' ∧ ∀ t, parseAt kind (front ++ t) 0 = .ok (f, last)) ∧
    (∀ s t f g, IsWhole kind s f → IsWhole kind (s ++ t) g → t = "") ∧
    (∀ texts texts', (∀ t ∈ texts, ∃ f, IsWhole kind t f) → (∀ t ∈ texts', ∃ f, IsWhole kind t f) →
      String.join texts = String.join texts' → texts = texts') ∧
    ∀ texts fs, List.Forall₂ (IsWhole kind) texts fs → ∀ before after : String,
      ReadsInTurn kind (before ++ String.join texts ++ after) (byteLength before.toList) fs
        (byteLength (before ++ String.join texts).toList) := by
  refine ⟨parseAt_append_eq_map kind, parseAt_zero_ne_badOffset kind, ?front,
    fun s t f g => eq_empty_of_isWhole, fun texts texts' => eq_of_join_eq,
    fun texts fs => readsInTurn_of_isWhole⟩
  intro s f last h
  obtain ⟨front, back, hs, hlast, hclose, hrest⟩ := exists_front_of_parseAt h
  -- what is read ends with a closing parenthesis, so that it is not empty
  have hpos : 0 < byteLength front.toList := by
    refine Nat.pos_of_ne_zero fun hzero => ?_
    rw [byteLength_eq_zero_iff.mp hzero] at hclose
    contradiction
  have hle : byteLength front.toList ≤ byteLength s.toList := by
    rw [hs, String.toList_append, byteLength_append]
    exact Nat.le_add_right _ _
  rw [hlast] at hpos hle
  exact ⟨hpos, hle, front, back, hs, hlast, hclose, hrest⟩

/-- Two filters in a row, with a character of two bytes in and before them. -/
theorem parseAt_local_row :
    let state := Filter.equals "état" "*"
    let other := Filter.negation (Filter.equals "cn" "b")
    parseAt .any "(État=*)(!(cn=b))" 0 = .ok (state, 9) ∧
    (∃ front back : String, "(État=*)(!(cn=b))" = front ++ back ∧ byteLength front.toList = 9 ∧
      front.toList.getLast? = some ')' ∧ ∀ t, parseAt .any (front ++ t) 0 = .ok (state, 9)) ∧
    IsWhole .any "(État=*)" state ∧ IsWhole .any "(!(cn=b))" other ∧
    (∀ t g, IsWhole .any ("(État=*)" ++ t) g → t = "") ∧
    (∀ texts, (∀ t ∈ texts, ∃ f, IsWhole .any t f) →
      String.join texts = String.join ["(État=*)", "(!(cn=b))"] →
      texts = ["(État=*)", "(!(cn=b))"]) ∧
    ReadsInTurn .any ("é" ++ String.join ["(État=*)", "(!(cn=b))"] ++ "))") 2 [state, other] 20 := by
  intro state other
  obtain ⟨-, -, hfront, hlonger, hjoin, hrow⟩ := parseAt_local .any
  have hread : parseAt .any "(État=*)(!(cn=b))" 0 = .ok (state, 9) := by decide +kernel
  have hstate : IsWhole .any "(État=*)" state := by
    show parseAt .any "(État=*)" 0 = .ok (state, 9)
    decide +kernel
  have hother : IsWhole .any "(!(cn=b))" other := by
    show parseAt .any "(!(cn=b))" 0 = .ok (other, 9)
    decide +kernel
  have htexts : List.Forall₂ (IsWhole .any) ["(État=*)", "(!(cn=b))"] [state, other] :=
    .cons hstate (.cons hother .nil)
  have hwhole : ∀ t ∈ ["(État=*)", "(!(cn=b))"], ∃ f, IsWhole .any t f := by
    intro t ht
    simp only [List.mem_cons, List.not_mem_nil, or_false] at ht
    rcases ht with rfl | rfl
    · exact ⟨state, hstate⟩
    · exact ⟨other, hother⟩
  exact ⟨hread, (hfront _ _ _ hread).2.2, hstate, hother,
    fun t g => hlonger _ t state g hstate, fun texts ht heq => hjoin texts _ ht hwhole heq,
    hrow _ _ htexts "é" "))"⟩

end UserDirectory.Filter
