import Mathlib.Logic.Function.Iterate
import UserDirectory.Proofs.Filter.Kinds
import UserDirectory.Proofs.Text.Place

/-!
# UserDirectory — reading filters step by step

The readers of filters hand on what is left of the text, which cannot be anything but a rest of it.
Here they are taken apart into steps that know the whole expression and a place in it, as a number
of bytes, and that keep one counter of the open groups, which goes up and down. In such steps a
place may be inside of a character, a text may be asked for that is not there, and the counter may
be left at a wrong value. None of this happens.

A state says what is done next (`Control`), which readers wait for a filter inside of their own
(`Frame`), and what the counter says. `Sound` is what holds of every state of a run, and `remaining`
is what every step lowers: it moves the place on, or stays there for something that comes later in
the order of the steps.

## Results

* `readAssertion_eq_outcome` — an equality is read in place as it is read from the front of a text.
* `below_step`               — a step leads to a sound state with less left to do.
* `sound_run`                — so every state of a run is sound.
* `exists_answer`            — and a run ends, after as many steps as were left at most.
-/

namespace UserDirectory.Filter.Stepwise

open Text

-- ---------------------------------------------------------------------------
-- States
-- ---------------------------------------------------------------------------

/-- A reader that waits for a filter inside of the one it reads. -/
inductive Frame where
  /-- A conjunction or disjunction waits for a member behind those that it has. -/
  | several (k : Connective) (members : List Filter)
  /-- A negation waits for its member. -/
  | negation
  deriving DecidableEq

/-- What is done next. -/
inductive Control where
  /-- The reader of the kind is called for the place. -/
  | call (kind : Condition) (place : Nat)
  /-- A conjunction or disjunction with these members looks for one more at the place. -/
  | round (k : Connective) (members : List Filter) (place : Nat)
  /-- A filter that ends at the place is given to the reader that waits for it. -/
  | found (f : Filter) (place : Nat)
  /-- The filter is refused, with all that are around it. -/
  | refused (c : Condition)
  /-- A text was asked for between places that are not both good, or the counter was to go below
  zero. -/
  | broken
  deriving DecidableEq

/-- A state between two steps. -/
structure State where
  control : Control
  /-- The innermost one comes first. -/
  frames : List Frame
  /-- The counter of open groups. -/
  depth : Nat
  deriving DecidableEq

/-- The answer, if there is one. -/
def State.answer? : State → Option (Except FilterError (Filter × Nat))
  | ⟨.found f place, [], _⟩ => some (.ok (f, place))
  | ⟨.refused c, _, _⟩ => some (.error (.notA c))
  | _ => none

-- ---------------------------------------------------------------------------
-- Steps
-- ---------------------------------------------------------------------------

/-- Pass a call for a filter of any kind on to the reader for what the text looks like. -/
def passOn (cs : List Char) (place : Nat) : Control :=
  match behind cs place with
  | '(' :: body => .call (kindOf ('(' :: body)) place
  | _ => .refused .any

/-- Read an equality. -/
def readAssertion (cs : List Char) (place : Nat) : Control :=
  let rest := behind cs place
  if rest.head? ≠ some '(' then .refused .equality
  else
    match firstPlace? ')' rest with
    | none => .refused .equality
    | some close =>
      match slice? rest 1 close with
      | none => .broken
      | some inside =>
        match splitAssertion inside with
        | none => .refused .equality
        | some (name, pattern) =>
          .found (equals (String.ofList name) (String.ofList pattern)) (place + close + 1)

/-- Open a group of the kind, which has the mark behind its parenthesis, and go on `inside` with the
counter one higher. -/
def openMarked (cs : List Char) (mark : Char) (kind : Condition) (place : Nat)
    (frames : List Frame) (depth : Nat) (inside : Nat → State) : State :=
  if ['(', mark] <+: behind cs place then
    if maxDepth ≤ depth then ⟨.refused kind, frames, depth⟩ else inside (depth + 1)
  else ⟨.refused kind, frames, depth⟩

/-- Go on with the counter one lower. -/
def leave (frames : List Frame) (depth : Nat) (control : Control) : State :=
  match depth with
  | 0 => ⟨.broken, frames, 0⟩
  | depth + 1 => ⟨control, frames, depth⟩

/-- Start a reader. -/
def stepCall (cs : List Char) (kind : Condition) (place : Nat) (frames : List Frame)
    (depth : Nat) : State :=
  match kind with
  | .any => ⟨passOn cs place, frames, depth⟩
  | .equality => ⟨readAssertion cs place, frames, depth⟩
  | .conjunction => openMarked cs '&' .conjunction place frames depth fun depth =>
      ⟨.round .all [] (place + 2), frames, depth⟩
  | .disjunction => openMarked cs '|' .disjunction place frames depth fun depth =>
      ⟨.round .some [] (place + 2), frames, depth⟩
  | .negation => openMarked cs '!' .negation place frames depth fun depth =>
      ⟨.call .any (place + 2), .negation :: frames, depth⟩

/-- Look for one more member, or for the end of a conjunction or disjunction. -/
def stepRound (cs : List Char) (k : Connective) (members : List Filter) (place : Nat)
    (frames : List Frame) (depth : Nat) : State :=
  match byteAt? cs place with
  | none => ⟨.refused k.condition, frames, depth⟩
  | some b =>
    if b = closeByte then
      leave frames depth
        (if members.isEmpty then .refused k.condition else .found (k.join members) (place + 1))
    else ⟨.call .any place, .several k members :: frames, depth⟩

/-- Do one step. Nothing is done where there is an answer. -/
def step (cs : List Char) : State → State
  | ⟨.call kind place, frames, depth⟩ => stepCall cs kind place frames depth
  | ⟨.round k members place, frames, depth⟩ => stepRound cs k members place frames depth
  | ⟨.found f place, .several k members :: frames, depth⟩ =>
    ⟨.round k (members ++ [f]) place, frames, depth⟩
  | ⟨.found f place, .negation :: frames, depth⟩ =>
    leave frames depth
      (if byteAt? cs place = some closeByte then .found (.negation f) (place + 1)
      else .refused .negation)
  | s => s

variable {cs : List Char} {s : State} {frames : List Frame} {depth place : Nat}

/-- Nothing is done where there is an answer. -/
theorem step_of_answer {a : Except FilterError (Filter × Nat)} (h : s.answer? = some a) :
    step cs s = s := by
  obtain ⟨control, frames, depth⟩ := s
  cases control with
  | refused c => rfl
  | found f place =>
    cases frames with
    | nil => rfl
    | cons frame frames => contradiction
  | call kind place => contradiction
  | round k members place => contradiction
  | broken => contradiction

/-- The readers for conjunctions and disjunctions are one reader with two marks. -/
theorem stepCall_condition (k : Connective) (cs : List Char) (place : Nat)
    (frames : List Frame) (depth : Nat) :
    stepCall cs k.condition place frames depth =
      openMarked cs k.symbol k.condition place frames depth fun depth =>
        ⟨.round k [] (place + 2), frames, depth⟩ := by
  cases k <;> rfl

-- ---------------------------------------------------------------------------
-- Equalities
-- ---------------------------------------------------------------------------

/-- What is done next when a reader has given its answer. -/
def outcome (cs : List Char) : Except Condition (Filter × List Char) → Control
  | .ok (f, r) => .found f (byteLength cs - byteLength r)
  | .error c => .refused c

/-- An equality starts with an opening parenthesis. -/
theorem readEquality_of_ne {rest : List Char} (h : rest.head? ≠ some '(') :
    readEquality rest = .error .equality := by
  cases hread : readEquality rest with
  | error c => rw [eq_of_readEquality_eq_error hread]
  | ok p =>
    obtain ⟨name, value, -, -, rfl, -⟩ := readEquality_eq_ok_iff.mp hread
    exact absurd rfl h

/-- An equality ends at the first closing parenthesis, and is what stands before it. -/
theorem readEquality_of_close {inside r : List Char} (h : ')' ∉ inside) :
    readEquality ('(' :: (inside ++ ')' :: r)) =
      match splitAssertion inside with
      | none => .error .equality
      | some (name, pattern) => .ok (equals (String.ofList name) (String.ofList pattern), r) := by
  obtain ⟨q, hclose, hrest⟩ : ∃ q : Rest (inside ++ ')' :: r),
      untilClose (inside ++ ')' :: r) = some (inside, q) ∧ q.1 = r := untilClose_of_eq rfl h
  rw [readEquality, equalityAt, hclose]
  simp only
  cases splitAssertion inside with
  | none => rfl
  | some p => exact plain_eq_ok_iff.mpr ⟨q.cons '(', rfl, hrest⟩

/-- An equality is read in place as it is read from the front of what is behind the place. -/
theorem readAssertion_eq_outcome {rest : List Char} (h : suffixAt cs place = some rest) :
    readAssertion cs place = outcome cs (readEquality rest) := by
  rw [readAssertion, behind_of_suffixAt h]
  -- the same three tests on both sides: a parenthesis in front, one behind, and a name between
  by_cases hopen : rest.head? = some '('
  · obtain ⟨body, rfl⟩ := List.head?_eq_some_iff.mp hopen
    simp only [List.head?_cons, ne_eq, not_true_eq_false, if_false]
    by_cases hclose : ')' ∈ body
    · obtain ⟨inside, r, rfl, hinside⟩ := List.eq_append_cons_of_mem hclose
      have hbefore : ')' ∉ '(' :: inside := by simp [hinside]
      have hfirst : firstPlace? ')' ('(' :: (inside ++ ')' :: r)) =
          some (byteLength ('(' :: inside)) := firstPlace?_of_append hbefore
      have hslice : slice? ('(' :: (inside ++ ')' :: r)) 1 (byteLength ('(' :: inside)) =
          some inside :=
        slice?_of_append ['('] inside (')' :: r)
      rw [hfirst, readEquality_of_close hinside]
      simp only [hslice]
      cases splitAssertion inside with
      | none => rfl
      | some p =>
        -- the place behind the parenthesis, counted from the start and from the end
        have hlength := byteLength_of_suffixAt h
        simp only [byteLength_cons, byteLength_append] at hlength
        have hend : place + byteLength ('(' :: inside) + 1 = byteLength cs - byteLength r := by
          have hone : Char.utf8Size ')' = 1 := rfl
          rw [byteLength_cons]
          omega
        simp only [hend, outcome]
    · have hnone : ')' ∉ '(' :: body := by simp [hclose]
      rw [firstPlace?_of_notMem hnone, readEquality_of_noClose hnone]
      rfl
  · rw [if_pos hopen, readEquality_of_ne hopen]
    rfl

-- ---------------------------------------------------------------------------
-- Moving on
-- ---------------------------------------------------------------------------

/-- Behind a parenthesis and a mark, which take two bytes, the body starts. -/
theorem suffixAt_mark {mark : Char} {body : List Char} (hmark : IsMark mark)
    (h : suffixAt cs place = some ('(' :: mark :: body)) :
    suffixAt cs (place + 2) = some body := by
  have hlength : byteLength ['(', mark] = 2 := by
    rcases hmark with rfl | rfl | rfl <;> rfl
  rw [← hlength]
  exact suffixAt_add _ h

theorem suffixAt_close {rest : List Char} (h : suffixAt cs place = some (')' :: rest)) :
    suffixAt cs (place + 1) = some rest :=
  suffixAt_add [')'] h

theorem place_of_close {rest : List Char} (h : suffixAt cs place = some (')' :: rest)) :
    place + 1 = byteLength cs - byteLength rest := by
  have hlength := byteLength_of_suffixAt (suffixAt_close h)
  omega

/-- The place behind a text can be counted from either end of the expression. -/
theorem suffixAt_found {text rest : List Char} (h : suffixAt cs place = some (text ++ rest)) :
    suffixAt cs (byteLength cs - byteLength rest) = some rest ∧
      byteLength cs - byteLength rest = place + byteLength text := by
  have hlength := byteLength_of_suffixAt h
  rw [byteLength_append] at hlength
  have hend : byteLength cs - byteLength rest = place + byteLength text := by omega
  refine ⟨?_, hend⟩
  rw [hend]
  exact suffixAt_add _ h

/-- Where groups may be opened, one with the mark is, with the counter one higher. -/
theorem openMarked_of_lt {mark : Char} {kind : Condition} {body : List Char}
    (h : suffixAt cs place = some ('(' :: mark :: body)) (hdepth : depth < maxDepth)
    (inside : Nat → State) :
    openMarked cs mark kind place frames depth inside = inside (depth + 1) := by
  have hopen : ['(', mark] <+: '(' :: mark :: body := List.prefix_append ['(', mark] body
  rw [openMarked, behind_of_suffixAt h, if_pos hopen, if_neg (Nat.not_le.mpr hdepth)]

theorem openMarked_of_le {mark : Char} {kind : Condition} (hdepth : maxDepth ≤ depth)
    (inside : Nat → State) :
    openMarked cs mark kind place frames depth inside = ⟨.refused kind, frames, depth⟩ := by
  rw [openMarked, if_pos hdepth, ite_self]

/-- A group without the mark is not opened. -/
theorem openMarked_of_ne {mark : Char} {kind : Condition} {rest : List Char}
    (h : suffixAt cs place = some rest) (hne : ∀ body, rest ≠ '(' :: mark :: body)
    (inside : Nat → State) :
    openMarked cs mark kind place frames depth inside = ⟨.refused kind, frames, depth⟩ := by
  have hopen : ¬['(', mark] <+: rest := by
    rintro ⟨body, hbody⟩
    exact hne body hbody.symm
  rw [openMarked, behind_of_suffixAt h, if_neg hopen]

-- ---------------------------------------------------------------------------
-- What every state is like
-- ---------------------------------------------------------------------------

/-- What holds of every state: its place is a good one, and the counter says how many groups are
open, which is how many readers wait and one more while a conjunction or disjunction looks for its
next member. -/
inductive Sound (cs : List Char) : State → Prop where
  | call {kind : Condition} {place : Nat} {frames : List Frame} (h : IsPlace cs place)
      (hdepth : frames.length ≤ maxDepth) : Sound cs ⟨.call kind place, frames, frames.length⟩
  | round {k : Connective} {members : List Filter} {place : Nat} {frames : List Frame}
      (h : IsPlace cs place) (hdepth : frames.length < maxDepth) :
      Sound cs ⟨.round k members place, frames, frames.length + 1⟩
  | found {f : Filter} {place : Nat} {frames : List Frame} (h : IsPlace cs place)
      (hdepth : frames.length ≤ maxDepth) : Sound cs ⟨.found f place, frames, frames.length⟩
  | refused {c : Condition} {frames : List Frame} {depth : Nat} :
      Sound cs ⟨.refused c, frames, depth⟩

/-- A reader that waits for one more filter is one more that is counted. -/
theorem sound_call_inside (frame : Frame) (h : IsPlace cs place)
    (hdepth : frames.length < maxDepth) :
    Sound cs ⟨.call .any place, frame :: frames, frames.length + 1⟩ := by
  have hinside : (frame :: frames).length ≤ maxDepth := hdepth
  exact .call h hinside

/-- In a sound state no text has been asked for that is not there, and the counter is not below
zero. -/
theorem Sound.control_ne_broken (h : Sound cs s) : s.control ≠ .broken := by
  rintro hbroken
  cases h <;> contradiction

/-- How many steps are left at most. What is behind the place counts most, and of two states with
the same place the one that comes first counts more: what ends there is given away, the next round
looks there, a reader of any kind is called for it, and then one of a certain kind. -/
def remaining (cs : List Char) : Control → Nat
  | .found _ place => 4 * (byteLength cs - place) + 4
  | .round _ _ place => 4 * (byteLength cs - place) + 3
  | .call .any place => 4 * (byteLength cs - place) + 2
  | .call _ place => 4 * (byteLength cs - place) + 1
  | .refused _ => 0
  | .broken => 0

/-- Whether a state is sound and has less than `n` left to do. -/
structure Below (cs : List Char) (n : Nat) (s : State) : Prop where
  sound : Sound cs s
  lt : remaining cs s.control < n

theorem below_refused {n : Nat} (hn : 0 < n) (c : Condition) (frames : List Frame) (depth : Nat) :
    Below cs n ⟨.refused c, frames, depth⟩ := ⟨.refused, hn⟩

/-- A call for a filter of any kind is passed on to one of a certain kind at the same place. -/
theorem below_passOn (h : IsPlace cs place) (hdepth : frames.length ≤ maxDepth) :
    Below cs (remaining cs (.call .any place)) ⟨passOn cs place, frames, frames.length⟩ := by
  rw [passOn]
  split
  · next body _ =>
    refine ⟨.call h hdepth, ?_⟩
    have hkind := kindOf_ne_any ('(' :: body)
    cases hk : kindOf ('(' :: body) with
    | any => exact absurd hk hkind
    | _ => exact Nat.lt_succ_self _
  · exact below_refused (Nat.succ_pos _) _ _ _

/-- An equality moves the place behind its closing parenthesis. -/
theorem below_readAssertion (h : IsPlace cs place) (hdepth : frames.length ≤ maxDepth) :
    Below cs (remaining cs (.call .equality place))
      ⟨readAssertion cs place, frames, frames.length⟩ := by
  have hrest := isPlace_iff.mp h
  rw [readAssertion_eq_outcome hrest]
  cases hread : readEquality (behind cs place) with
  | error c => exact below_refused (Nat.succ_pos _) _ _ _
  | ok p =>
    obtain ⟨f, r⟩ := p
    obtain ⟨t, ht, -⟩ := stopsAtClose_readEquality _ _ _ hread
    rw [ht, List.append_cons] at hrest
    obtain ⟨hplace, hend⟩ := suffixAt_found hrest
    have hle := (isPlace_of_suffixAt hplace).le
    have hone : byteLength [')'] = 1 := rfl
    rw [byteLength_append] at hend
    -- one byte less behind the place counts for more than what is done next at the new one
    refine ⟨.found (isPlace_of_suffixAt hplace) hdepth, ?_⟩
    simp only [outcome, remaining]
    omega

/-- A group is opened or refused; for one that is opened the body has to be looked at. -/
theorem below_openMarked {n : Nat} {mark : Char} {kind : Condition} {inside : Nat → State}
    (hn : 0 < n) (h : IsPlace cs place)
    (hinside : ∀ body, suffixAt cs place = some ('(' :: mark :: body) → depth < maxDepth →
      Below cs n (inside (depth + 1))) :
    Below cs n (openMarked cs mark kind place frames depth inside) := by
  have hrest := isPlace_iff.mp h
  by_cases hopen : ∃ body, behind cs place = '(' :: mark :: body
  · obtain ⟨body, hbody⟩ := hopen
    rw [hbody] at hrest
    rcases Nat.lt_or_ge depth maxDepth with hlt | hge
    · rw [openMarked_of_lt hrest hlt]
      exact hinside body hrest hlt
    · rw [openMarked_of_le hge]
      exact below_refused hn _ _ _
  · rw [openMarked_of_ne hrest (not_exists.mp hopen)]
    exact below_refused hn _ _ _

/-- The two bytes of an opening parenthesis and a mark are there to be passed. -/
theorem place_add_two_le {mark : Char} {body : List Char} (hmark : IsMark mark)
    (h : suffixAt cs place = some ('(' :: mark :: body)) : place + 2 ≤ byteLength cs :=
  (isPlace_of_suffixAt (suffixAt_mark hmark h)).le

/-- A call of a reader leads to a sound state with less left to do. -/
theorem below_stepCall (kind : Condition) (h : IsPlace cs place)
    (hdepth : frames.length ≤ maxDepth) :
    Below cs (remaining cs (.call kind place))
      (stepCall cs kind place frames frames.length) := by
  -- the two connectives at once: the place moves past the parenthesis and the mark
  have hgroup : ∀ k : Connective, Below cs (4 * (byteLength cs - place) + 1)
      (stepCall cs k.condition place frames frames.length) := by
    intro k
    rw [stepCall_condition]
    refine below_openMarked (Nat.succ_pos _) h fun body hbody hlt => ?_
    have hle := place_add_two_le (isMark_symbol k) hbody
    refine ⟨.round (isPlace_of_suffixAt (suffixAt_mark (isMark_symbol k) hbody)) hlt, ?_⟩
    simp only [remaining]
    omega
  cases kind with
  | any => exact below_passOn h hdepth
  | equality => exact below_readAssertion h hdepth
  | conjunction => exact hgroup .all
  | disjunction => exact hgroup .some
  | negation =>
    have hmark : IsMark '!' := .inr (.inr rfl)
    refine below_openMarked (Nat.succ_pos _) h fun body hbody hlt => ?_
    have hle := place_add_two_le hmark hbody
    refine ⟨sound_call_inside .negation (isPlace_of_suffixAt (suffixAt_mark hmark hbody)) hlt, ?_⟩
    simp only [remaining]
    omega

theorem below_leave {n : Nat} {control : Control}
    (h : Below cs n ⟨control, frames, depth⟩) : Below cs n (leave frames (depth + 1) control) := h

/-- A closing parenthesis takes one byte. -/
theorem isPlace_of_close (h : IsPlace cs place) (hclose : byteAt? cs place = some closeByte) :
    IsPlace cs (place + 1) := by
  have hrest := isPlace_iff.mp h
  obtain ⟨back, hback⟩ := (byteAt?_eq_close_iff hrest).mp hclose
  rw [hback] at hrest
  exact isPlace_of_suffixAt (suffixAt_close hrest)

/-- A look for one more member leads to a sound state with less left to do. -/
theorem below_stepRound (k : Connective) (members : List Filter) (h : IsPlace cs place)
    (hdepth : frames.length < maxDepth) :
    Below cs (remaining cs (.round k members place))
      (stepRound cs k members place frames (frames.length + 1)) := by
  rw [stepRound]
  split
  · exact below_refused (Nat.succ_pos _) _ _ _
  · next b hb =>
    -- the group ends here, or a filter of any kind is called for at the same place
    by_cases hclose : b = closeByte
    · rw [if_pos hclose]
      refine below_leave ?_
      split
      · exact below_refused (Nat.succ_pos _) _ _ _
      · have hplace := isPlace_of_close h (hclose ▸ hb)
        have hle := hplace.le
        refine ⟨.found hplace (Nat.le_of_lt hdepth), ?_⟩
        simp only [remaining]
        omega
    · rw [if_neg hclose]
      refine ⟨sound_call_inside (.several k members) h hdepth, ?_⟩
      exact Nat.lt_succ_self _

/-- A filter that a reader waits for is taken by it. -/
theorem below_found (f : Filter) (frame : Frame) (h : IsPlace cs place)
    (hdepth : frames.length < maxDepth) :
    Below cs (remaining cs (.found f place))
      (step cs ⟨.found f place, frame :: frames, frames.length + 1⟩) := by
  cases frame with
  | several k members => exact ⟨.round h hdepth, Nat.lt_succ_self _⟩
  | negation =>
    rw [step]
    refine below_leave ?_
    split
    · next hclose =>
      have hplace := isPlace_of_close h hclose
      have hle := hplace.le
      refine ⟨.found hplace (Nat.le_of_lt hdepth), ?_⟩
      simp only [remaining]
      omega
    · exact below_refused (Nat.succ_pos _) _ _ _

/-- A step of a sound state without an answer leads to a sound one with less left to do. -/
theorem below_step (h : Sound cs s) (hnone : s.answer? = none) :
    Below cs (remaining cs s.control) (step cs s) := by
  cases h with
  | call h hdepth => exact below_stepCall _ h hdepth
  | round h hdepth => exact below_stepRound _ _ h hdepth
  | refused => contradiction
  | @found f place frames h hdepth =>
    cases frames with
    | nil => contradiction
    | cons frame frames => exact below_found f frame h hdepth

/-- A step of a sound state leads to a sound one. -/
theorem sound_step (h : Sound cs s) : Sound cs (step cs s) := by
  cases hanswer : s.answer? with
  | none => exact (below_step h hanswer).sound
  | some a => rwa [step_of_answer hanswer]

/-- A step never raises what is left to do. -/
theorem remaining_step_le (h : Sound cs s) :
    remaining cs (step cs s).control ≤ remaining cs s.control := by
  cases hanswer : s.answer? with
  | none => exact Nat.le_of_lt (below_step h hanswer).lt
  | some a => rw [step_of_answer hanswer]

-- ---------------------------------------------------------------------------
-- Runs
-- ---------------------------------------------------------------------------

/-- Every state of a run that starts in a sound one is sound. -/
theorem sound_run (h : Sound cs s) (n : Nat) : Sound cs ((step cs)^[n] s) := by
  induction n with
  | zero => exact h
  | succ n ih =>
    rw [Function.iterate_succ_apply']
    exact sound_step ih

/-- What is left to do never rises in a run. -/
theorem remaining_run_le (h : Sound cs s) (n : Nat) :
    remaining cs ((step cs)^[n] s).control ≤ remaining cs s.control := by
  induction n with
  | zero => exact le_rfl
  | succ n ih =>
    rw [Function.iterate_succ_apply']
    exact (remaining_step_le (sound_run h n)).trans ih

/-- What is done later in a run is less. -/
theorem remaining_run_lt (h : Sound cs s) (hnone : s.answer? = none) {n : Nat} (hn : 0 < n) :
    remaining cs ((step cs)^[n] s).control < remaining cs s.control := by
  obtain ⟨n, rfl⟩ := Nat.exists_eq_succ_of_ne_zero (Nat.ne_of_gt hn)
  rw [Function.iterate_succ_apply]
  -- the first step lowers it, and no other one raises it
  have hbelow := below_step h hnone
  exact (remaining_run_le hbelow.sound n).trans_lt hbelow.lt

theorem run_of_answer {a : Except FilterError (Filter × Nat)} (h : s.answer? = some a) (n : Nat) :
    (step cs)^[n] s = s :=
  Function.iterate_fixed (step_of_answer h) n

/-- A run ends with an answer. -/
theorem exists_answer (h : Sound cs s) {n : Nat} (hn : remaining cs s.control ≤ n) :
    ∃ a, ((step cs)^[n] s).answer? = some a := by
  -- on a bound of what is left, which every step without an answer lowers
  induction n generalizing s with
  | zero =>
    cases hanswer : s.answer? with
    | some a => exact ⟨a, hanswer⟩
    | none => exact absurd (below_step h hanswer).lt (by omega)
  | succ n ih =>
    cases hanswer : s.answer? with
    | some a => exact ⟨a, by rw [run_of_answer hanswer, hanswer]⟩
    | none =>
      have hbelow := below_step h hanswer
      exact ih hbelow.sound (Nat.le_of_lt_succ (hbelow.lt.trans_le hn))

end UserDirectory.Filter.Stepwise
