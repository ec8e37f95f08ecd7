import UserDirectory.Proofs.Filter.LetterCase
import UserDirectory.Proofs.Filter.Locality

/-!
# UserDirectory — texts that break off

A front of a filter is refused because of the innermost group that is still open at its end. Which
groups those are can be told from the front alone, character by character (`openGroups`): a
parenthesis opens a group, what follows it tells the kind, and in a text that the grammar derives
each closing parenthesis closes the innermost group.

## Results

* `foldl_advance_of_derives` — a derivable text leaves the groups around it as they are, but for
  the member that a negation gets.
* `unfinished_of_derives`    — a front of a derivable text has an open group, and is refused for it.
* `parseAt_front_of_isWhole` — what is answered for each front of a filter.
-/

namespace UserDirectory.Filter

open Text

-- ---------------------------------------------------------------------------
-- Open groups
-- ---------------------------------------------------------------------------

/-- What has been read of a group that is still open. -/
inductive OpenGroup where
  /-- Its parenthesis and nothing else. -/
  | opened
  /-- The parenthesis of an equality and something of its name. -/
  | equality
  /-- The mark of a conjunction or disjunction, and any number of whole members. -/
  | several (k : Connective)
  /-- The mark of a negation, and its member if that is complete. -/
  | negation (complete : Bool)
  deriving DecidableEq, Repr

namespace OpenGroup

/-- What is missed of a group when the text ends. -/
def missing : OpenGroup → Condition
  | .opened => .equality
  | .equality => .equality
  | .several k => k.condition
  | .negation false => .any
  | .negation true => .negation

/-- The group of which the parenthesis has been read and then the character `c`. -/
def ofSecond (c : Char) : OpenGroup :=
  if c = '&' then .several .all
  else if c = '|' then .several .some
  else if c = '!' then .negation false
  else .equality

end OpenGroup

/-- The open groups when one more member of the innermost one has been read. -/
def memberRead : List OpenGroup → List OpenGroup
  | .negation _ :: outer => .negation true :: outer
  | groups => groups

/-- The open groups, the innermost one first, when one more character has been read. -/
def advance (groups : List OpenGroup) (c : Char) : List OpenGroup :=
  if c = '(' then .opened :: groups
  else if c = ')' then memberRead groups.tail
  else
    match groups with
    | .opened :: outer => .ofSecond c :: outer
    | groups => groups

/-- The groups that are open at the end of a front of a filter, the innermost one first. -/
def openGroups (front : List Char) : List OpenGroup := front.foldl advance []

section

variable {q : List Char} {outer : List OpenGroup}

theorem advance_open (groups : List OpenGroup) : advance groups '(' = .opened :: groups := rfl

theorem advance_symbol (k : Connective) (outer : List OpenGroup) :
    advance (.opened :: outer) k.symbol = .several k :: outer := by
  cases k <;> rfl

theorem advance_not (outer : List OpenGroup) :
    advance (.opened :: outer) '!' = .negation false :: outer := rfl

/-- An equality stays open up to its closing parenthesis. -/
theorem foldl_advance_equality (hopen : '(' ∉ q) (hclose : ')' ∉ q) :
    q.foldl advance (.equality :: outer) = .equality :: outer := by
  induction q with
  | nil => rfl
  | cons c q ih =>
    rw [List.mem_cons, not_or] at hopen hclose
    have hstep : advance (.equality :: outer) c = .equality :: outer := by
      simp only [advance, if_neg (Ne.symm hopen.1), if_neg (Ne.symm hclose.1)]
    rw [List.foldl_cons, hstep, ih hopen.2 hclose.2]

/-- What follows an opening parenthesis makes it an equality if it is no mark. -/
theorem foldl_advance_opened (hne : q ≠ []) (hmark : ∀ c ∈ q.head?, ¬IsMark c)
    (hopen : '(' ∉ q) (hclose : ')' ∉ q) :
    q.foldl advance (.opened :: outer) = .equality :: outer := by
  obtain ⟨c, cs, rfl⟩ := List.exists_cons_of_ne_nil hne
  rw [List.mem_cons, not_or] at hopen hclose
  have hname := hmark c rfl
  simp only [IsMark, not_or] at hname
  have hstep : advance (.opened :: outer) c = .equality :: outer := by
    simp only [advance, if_neg (Ne.symm hopen.1), if_neg (Ne.symm hclose.1), OpenGroup.ofSecond,
      if_neg hname.1, if_neg hname.2.1, if_neg hname.2.2]
  rw [List.foldl_cons, hstep, foldl_advance_equality hopen.2 hclose.2]

/-- A group whose members close all that they open is one more member for the group around it. -/
theorem foldl_advance_group {t : List Char} {k : Connective}
    (h : t.foldl advance (.several k :: outer) = .several k :: outer) :
    ('(' :: k.symbol :: (t ++ [')'])).foldl advance outer = memberRead outer := by
  rw [List.foldl_cons, List.foldl_cons, advance_open, advance_symbol, List.foldl_append, h]
  rfl

end

mutual

/-- A derivable text closes all groups that it opens, and is one more member for the innermost one
around it. -/
theorem foldl_advance_of_derives {t : List Char} {f : Filter} (h : Derives t f)
    (outer : List OpenGroup) : t.foldl advance outer = memberRead outer := by
  match h with
  | @Derives.equality name value hname hmark hvalue =>
    have hhead : ∀ c ∈ (name ++ '=' :: value).head?, ¬IsMark c := by
      rwa [List.head?_append_of_ne_nil _ hname.ne_nil]
    have hinside : (name ++ '=' :: value).foldl advance (.opened :: outer) = .equality :: outer :=
      foldl_advance_opened (by simp) hhead (by simp [hname.noOpen, hvalue.noOpen])
        (by simp [hname.noClose, hvalue.noClose])
    have hsplit : name ++ '=' :: (value ++ [')']) = (name ++ '=' :: value) ++ [')'] := by simp
    rw [List.foldl_cons, advance_open, hsplit, List.foldl_append, hinside]
    rfl
  | .conjunction hs hne =>
    exact foldl_advance_group (k := .all) (foldl_advance_of_derivesAll hs .all outer)
  | .disjunction hs hne =>
    exact foldl_advance_group (k := .some) (foldl_advance_of_derivesAll hs .some outer)
  | @Derives.negation t member h =>
    rw [List.foldl_cons, List.foldl_cons, advance_open, advance_not, List.foldl_append,
      foldl_advance_of_derives h]
    rfl

/-- Members leave the group that they are in as it is. -/
theorem foldl_advance_of_derivesAll {t : List Char} {fs : List Filter} (h : DerivesAll t fs)
    (k : Connective) (outer : List OpenGroup) :
    t.foldl advance (.several k :: outer) = .several k :: outer := by
  match h with
  | .nil => rfl
  | .cons h hs =>
    rw [List.foldl_append, foldl_advance_of_derives h]
    exact foldl_advance_of_derivesAll hs k outer

end

-- ---------------------------------------------------------------------------
-- Fronts of derivable texts
-- ---------------------------------------------------------------------------

/-- Whether a group is open at the end of `front`, which follows the groups `around`, and the answer
of a reader is that this one is missed. -/
def Unfinished {α : Type} (around : List OpenGroup) (front : List Char) (x : Except Condition α) :
    Prop :=
  ∃ group inner, (∀ outer, front.foldl advance (around ++ outer) = group :: (inner ++ outer)) ∧
    x = .error group.missing

section

variable {k : Connective} {depth : Nat} {front more t : List Char}

/-- A front that leaves something out is a front of what comes before the last character. -/
theorem exists_front_of_concat {c : Char} (h : t ++ [c] = front ++ more) (hmore : more ≠ []) :
    ∃ rest, t = front ++ rest := by
  obtain ⟨rest, last, rfl⟩ := List.eq_nil_or_concat' more |>.resolve_left hmore
  rw [← List.append_assoc] at h
  exact ⟨rest, (List.append_inj' h rfl).1⟩

/-- Behind a parenthesis and nothing else an equality is missed. -/
theorem unfinished_open (depth : Nat) : Unfinished [] ['('] (readFilter depth ['(']) := by
  have hmark : ¬Marked ['('] := by
    rintro ⟨c, body, hs, -⟩
    simp at hs
  refine ⟨.opened, [], fun outer => rfl, ?_⟩
  rw [readFilter_equality hmark, readEquality_of_noClose (by decide)]
  rfl

/-- An equality that breaks off is missed as an equality. -/
theorem unfinished_equality {name value : List Char} (hname : IsName name)
    (hmark : ∀ c ∈ name.head?, ¬IsMark c) (hvalue : IsValue value)
    (h : name ++ '=' :: value = front ++ more) :
    Unfinished [] ('(' :: front) (readFilter depth ('(' :: front)) := by
  by_cases hfront : front = []
  · rw [hfront]
    exact unfinished_open depth
  · -- the front starts as the name does, without a mark, and has no parentheses
    have hhead : ∀ c ∈ front.head?, ¬IsMark c := by
      have hsame := congrArg List.head? h
      rw [List.head?_append_of_ne_nil _ hname.ne_nil, List.head?_append_of_ne_nil _ hfront] at hsame
      rwa [← hsame]
    have hopen : '(' ∉ front := by
      have hinside : '(' ∉ name ++ '=' :: value := by simp [hname.noOpen, hvalue.noOpen]
      rw [h, List.mem_append, not_or] at hinside
      exact hinside.1
    have hclose : ')' ∉ front := by
      have hinside : ')' ∉ name ++ '=' :: value := by simp [hname.noClose, hvalue.noClose]
      rw [h, List.mem_append, not_or] at hinside
      exact hinside.1
    have hplain : ¬Marked ('(' :: front) := by
      rintro ⟨c, body, hs, hc⟩
      rw [(List.cons.inj hs).2] at hhead
      exact hhead c rfl hc
    refine ⟨.equality, [], fun outer => ?_, ?_⟩
    · exact foldl_advance_opened hfront hhead hopen hclose
    · rw [readFilter_equality hplain, readEquality_of_noClose (by simp [hclose])]
      rfl

/-- A conjunction or disjunction breaks off in front of its mark or where its members do. -/
theorem unfinished_group (hdepth : depth < maxDepth)
    (hmembers : ∀ inside rest, t = inside ++ rest →
      Unfinished [.several k] inside (readMembers k (depth + 1) inside))
    (ht : k.symbol :: (t ++ [')']) = front ++ more) (hmore : more ≠ []) :
    Unfinished [] ('(' :: front) (readFilter depth ('(' :: front)) := by
  cases front with
  | nil => exact unfinished_open depth
  | cons c inside =>
    obtain ⟨rfl, hbody⟩ := List.cons.inj ht
    obtain ⟨rest, hrest⟩ := exists_front_of_concat hbody hmore
    obtain ⟨group, inner, hgroups, hread⟩ := hmembers inside rest hrest
    refine ⟨group, inner, fun outer => ?_, ?_⟩
    · rw [List.nil_append, List.foldl_cons, List.foldl_cons, advance_open, advance_symbol]
      exact hgroups outer
    · rw [readFilter_group, readGroup_of_lt hdepth, hread]
      rfl

/-- Behind the mark of a negation any filter is missed, and behind its member the parenthesis of the
negation is. -/
theorem unfinished_negation {member : Filter} (h : Derives t member)
    (hn : member.nesting + 1 ≤ maxDepth - depth)
    (hmember : ∀ inside rest, t = inside ++ rest → inside ≠ [] → rest ≠ [] →
      Unfinished [] inside (readFilter (depth + 1) inside))
    (ht : '!' :: (t ++ [')']) = front ++ more) (hmore : more ≠ []) :
    Unfinished [] ('(' :: front) (readFilter depth ('(' :: front)) := by
  cases front with
  | nil => exact unfinished_open depth
  | cons c inside =>
    obtain ⟨rfl, hbody⟩ := List.cons.inj ht
    obtain ⟨rest, hrest⟩ := exists_front_of_concat hbody hmore
    have hdepth : depth < maxDepth := by omega
    have hgroups : ∀ outer, ('(' :: '!' :: inside).foldl advance ([] ++ outer) =
        inside.foldl advance (.negation false :: outer) := fun outer => rfl
    rw [readFilter_negation, readNegation_eq_closeNegation hdepth]
    -- the front ends behind the mark, behind the member, or inside of the member
    by_cases hnil : inside = []
    · subst hnil
      refine ⟨.negation false, [], hgroups, ?_⟩
      rw [readFilter_of_ne (by simp)]
      rfl
    by_cases hwhole : rest = []
    · rw [hwhole, List.append_nil] at hrest
      subst hrest
      have hread := read_of_derives h (show member.nesting ≤ maxDepth - (depth + 1) by omega) []
      rw [List.append_nil] at hread
      refine ⟨.negation true, [], fun outer => ?_, ?_⟩
      · rw [hgroups, foldl_advance_of_derives h]
        rfl
      · rw [hread]
        rfl
    · obtain ⟨group, inner, hinner, hread⟩ := hmember inside rest hrest hnil hwhole
      refine ⟨group, inner ++ [.negation false], fun outer => ?_, ?_⟩
      · rw [hgroups, List.append_assoc]
        exact hinner (.negation false :: outer)
      · rw [hread]
        rfl

end

mutual

/-- A front of a derivable text that leaves something out is refused for the innermost group that is
open at its end. -/
theorem unfinished_of_derives {t front more : List Char} {f : Filter} {depth : Nat}
    (h : Derives t f) (hn : f.nesting ≤ maxDepth - depth) (ht : t = front ++ more)
    (hfront : front ≠ []) (hmore : more ≠ []) : Unfinished [] front (readFilter depth front) := by
  obtain ⟨c, front, rfl⟩ := List.exists_cons_of_ne_nil hfront
  -- the opening parenthesis is there, and the last character is not
  match h with
  | @Derives.equality name value hname hmark hvalue =>
    obtain ⟨rfl, hbody⟩ := List.cons.inj ht
    rw [show name ++ '=' :: (value ++ [')']) = (name ++ '=' :: value) ++ [')'] by simp] at hbody
    obtain ⟨rest, hrest⟩ := exists_front_of_concat hbody hmore
    exact unfinished_equality hname hmark hvalue hrest
  | .conjunction hs hne =>
    obtain ⟨rfl, hbody⟩ := List.cons.inj ht
    rw [nesting] at hn
    exact unfinished_group (k := .all) (by omega)
      (fun inside rest => unfinished_of_derivesAll .all hs (by omega)) hbody hmore
  | .disjunction hs hne =>
    obtain ⟨rfl, hbody⟩ := List.cons.inj ht
    rw [nesting] at hn
    exact unfinished_group (k := .some) (by omega)
      (fun inside rest => unfinished_of_derivesAll .some hs (by omega)) hbody hmore
  | .negation h =>
    obtain ⟨rfl, hbody⟩ := List.cons.inj ht
    rw [nesting] at hn
    exact unfinished_negation h hn (fun inside rest => unfinished_of_derives h (by omega)) hbody hmore

/-- A front of texts in a row is refused for its innermost open group, which is the one around them if
the front ends where a text does. -/
theorem unfinished_of_derivesAll {t front more : List Char} {fs : List Filter} {depth : Nat}
    (k : Connective) (h : DerivesAll t fs) (hn : nestingAll fs ≤ maxDepth - depth)
    (ht : t = front ++ more) : Unfinished [.several k] front (readMembers k depth front) := by
  have hnone : Unfinished [.several k] [] (readMembers k depth []) :=
    ⟨.several k, [], fun outer => rfl, readMembers_nil k depth⟩
  match h with
  | .nil =>
    obtain ⟨rfl, -⟩ := List.nil_eq_append_iff.mp ht
    exact hnone
  | @DerivesAll.cons t u f fs h hs =>
    rw [nestingAll] at hn
    have hmember : f.nesting ≤ maxDepth - depth := by omega
    have hmembers : nestingAll fs ≤ maxDepth - depth := by omega
    by_cases hfront : front = []
    · rw [hfront]
      exact hnone
    -- the front breaks off behind the first text or inside of it
    have hcut : (∃ a, front = t ++ a ∧ u = a ++ more) ∨ ∃ a, t = front ++ a ∧ a ≠ [] := by
      rcases List.append_eq_append_iff.mp ht with ⟨a, ha, hu⟩ | ⟨a, ha, hmore⟩
      · exact .inl ⟨a, ha, hu⟩
      · by_cases hnil : a = []
        · subst hnil
          exact .inl ⟨[], by simpa using ha.symm, by simpa using hmore.symm⟩
        · exact .inr ⟨a, ha, hnil⟩
    rcases hcut with ⟨a, rfl, hu⟩ | ⟨a, rfl, hne⟩
    · -- the first text is whole, and the front breaks off behind it
      obtain ⟨group, inner, hgroups, hread⟩ := unfinished_of_derivesAll k hs hmembers hu
      refine ⟨group, inner, fun outer => ?_, ?_⟩
      · rw [List.foldl_append, foldl_advance_of_derives h]
        exact hgroups outer
      · rw [readMembers_append h hmember, hread]
        rfl
    · -- the front breaks off inside the first text
      obtain ⟨group, inner, hgroups, hread⟩ := unfinished_of_derives h hmember rfl hfront hne
      obtain ⟨body, rfl⟩ := h.exists_open_of_append hfront
      refine ⟨group, inner ++ [.several k], fun outer => ?_, readMembers_of_error hread⟩
      rw [List.append_assoc]
      exact hgroups (.several k :: outer)

end

-- ---------------------------------------------------------------------------
-- Fronts of filters
-- ---------------------------------------------------------------------------

theorem parseAt_any_of_error {text : String} {c : Condition}
    (h : readFilter 0 text.toList = .error c) : parseAt .any text 0 = .error (.notA c) := by
  have hany : readOf .any text.toList = .error c := h
  rw [parseAt_zero, hany]
  rfl

/-- At the end of a filter no group is open. A front of it, other than the whole, is refused: the
empty one because there is no filter, and any other for what is missed of the innermost group that
is open at its end. -/
theorem parseAt_front_of_isWhole {text : String} {f : Filter} (h : IsWhole .any text f) :
    openGroups text.toList = [] ∧
    ∀ front more : String, text = front ++ more → more ≠ "" →
      (front = "" → parseAt .any front 0 = .error (.notA .any)) ∧
      (front ≠ "" → ∃ group inner, openGroups front.toList = group :: inner ∧
        parseAt .any front 0 = .error (.notA group.missing)) := by
  obtain ⟨hderives, hnesting⟩ := isWhole_any_iff.mp h
  refine ⟨foldl_advance_of_derives hderives [], fun front more htext hmore => ⟨?empty, ?group⟩⟩
  case empty =>
    rintro rfl
    exact parseAt_any_of_error (readFilter_of_ne (by simp))
  case group =>
    intro hfront
    rw [htext, String.toList_append] at hderives
    rw [ne_eq, ← String.toList_eq_nil_iff] at hfront hmore
    obtain ⟨group, inner, hgroups, hrefused⟩ := unfinished_of_derives hderives
      (show f.nesting ≤ maxDepth - 0 from hnesting) rfl hfront hmore
    -- from outside no group is open, so that the open ones are those of the front alone
    have hopen := hgroups []
    rw [List.append_nil, List.append_nil] at hopen
    exact ⟨group, inner, hopen, parseAt_any_of_error hrefused⟩

/-- A negation whose member is a disjunction, cut behind a whole member of that, behind the mark of
the negation, behind its member and inside a value. -/
theorem parseAt_front_of_isWhole_negation :
    let text := "(!(|(cn=é)(sn=*)))"
    let member := Filter.disjunction [equals "cn" "é", equals "sn" "*"]
    IsWhole .any text (.negation member) ∧ openGroups text.toList = [] ∧
    parseAt .any "(!" 0 = .error (.notA .any) ∧
    parseAt .any "(!(|(cn=é" 0 = .error (.notA .equality) ∧
    parseAt .any "(!(|(cn=é)" 0 = .error (.notA .disjunction) ∧
    parseAt .any "(!(|(cn=é)(sn=*))" 0 = .error (.notA .negation) := by
  intro text member
  have hwhole : IsWhole .any text (.negation member) := by
    show parseAt .any "(!(|(cn=é)(sn=*)))" 0 = .ok (_, _)
    decide +kernel
  obtain ⟨hclosed, hfronts⟩ := parseAt_front_of_isWhole hwhole
  have hrefused : ∀ (front more : String) (group : OpenGroup), text = front ++ more → more ≠ "" →
      front ≠ "" → (openGroups front.toList).head? = some group →
      parseAt .any front 0 = .error (.notA group.missing) := by
    intro front more group htext hmore hfront hgroup
    obtain ⟨group', inner, hopen, hanswer⟩ := (hfronts front more htext hmore).2 hfront
    rw [hopen] at hgroup
    obtain rfl : group' = group := Option.some.inj hgroup
    exact hanswer
  refine ⟨hwhole, hclosed, ?_, ?_, ?_, ?_⟩
  · exact hrefused _ "(|(cn=é)(sn=*)))" (.negation false) rfl (by decide) (by decide) (by decide)
  · exact hrefused _ ")(sn=*)))" .equality rfl (by decide) (by decide) (by decide)
  · exact hrefused _ "(sn=*)))" (.several .some) rfl (by decide) (by decide) (by decide)
  · exact hrefused _ ")" (.negation true) rfl (by decide) (by decide) (by decide)

end UserDirectory.Filter
