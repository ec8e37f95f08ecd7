import UserDirectory.Proofs.Filter.Stepwise

/-!
# UserDirectory — what calls of the readers come to

A call in a step by step reading comes to what the reader of the kind gives for the text at the
place of the call: to its filter, with the waiting readers and the counter as they were, or to its
refusal. So a run from a good place of an expression ends with what is answered for the offset, and
on the way every call and every round is safe.

## Results

* `comes_reading`         — calls and rounds come to what the readers give, by induction on these.
* `exists_run_eq_parseAt` — a run from outside comes to what is answered for the offset.
* `safeCall_of_sound`     — a call in a sound state is safe.
* `stateAfter_safe`       — all calls and rounds of such a run are safe, and it ends.
-/

namespace UserDirectory.Filter.Stepwise

open Text

variable {cs : List Char} {s : State} {frames : List Frame} {depth place : Nat}

-- ---------------------------------------------------------------------------
-- What a call comes to
-- ---------------------------------------------------------------------------

/-- What the reader of the kind gives when `depth` groups are open. -/
def readWith (kind : Condition) (depth : Nat) (s : List Char) :
    Except Condition (Filter × List Char) :=
  match kind with
  | .any => readFilter depth s
  | .equality => readEquality s
  | .conjunction => readGroup .all depth s
  | .disjunction => readGroup .some depth s
  | .negation => readNegation depth s

/-- Whether the run from a state comes to the answer of a reader: to the filter that it gives, with
the waiting readers and the counter as stated, or to the refusal. -/
def Comes (cs : List Char) (s : State) (frames : List Frame) (depth : Nat) :
    Except Condition (Filter × List Char) → Prop
  | .ok (f, r) => ∃ n, (step cs)^[n] s = ⟨.found f (byteLength cs - byteLength r), frames, depth⟩
  | .error c => ∃ n, ((step cs)^[n] s).control = .refused c

section

variable {x : Except Condition (Filter × List Char)}

/-- Steps at the start of a run make no difference to what it comes to. -/
theorem comes_of_run {n : Nat} (h : Comes cs ((step cs)^[n] s) frames depth x) :
    Comes cs s frames depth x := by
  cases x with
  | ok p =>
    obtain ⟨m, hm⟩ := h
    exact ⟨m + n, by rw [Function.iterate_add_apply, hm]⟩
  | error c =>
    obtain ⟨m, hm⟩ := h
    exact ⟨m + n, by rw [Function.iterate_add_apply, hm]⟩

theorem comes_of_step (h : Comes cs (step cs s) frames depth x) : Comes cs s frames depth x :=
  comes_of_run (n := 1) h

/-- A run that is where the reader has given its answer has come to it. -/
theorem comes_of_control_eq {control : Control} (h : control = outcome cs x) :
    Comes cs ⟨control, frames, depth⟩ frames depth x := by
  subst h
  cases x with
  | ok p => exact ⟨0, rfl⟩
  | error c => exact ⟨0, rfl⟩

/-- A run comes to what is made of the answer of a reader inside if it does so from where that one
has found a filter. -/
theorem comes_bind {inner : List Frame} {level : Nat}
    {g : Filter × List Char → Except Condition (Filter × List Char)}
    (h : Comes cs s inner level x)
    (hg : ∀ f r, x = .ok (f, r) → Comes cs
      ⟨.found f (byteLength cs - byteLength r), inner, level⟩ frames depth (g (f, r))) :
    Comes cs s frames depth (x >>= g) := by
  cases x with
  | error c => exact h
  | ok p =>
    obtain ⟨f, r⟩ := p
    obtain ⟨n, hn⟩ := h
    exact comes_of_run (n := n) (hn ▸ hg f r rfl)

end

/-- What is made of members when some have been read before. -/
def joined (k : Connective) (members : List Filter)
    (x : Except Condition (List Filter × List Char)) : Except Condition (Filter × List Char) :=
  x >>= fun (more, r) =>
    if (members ++ more).isEmpty then .error k.condition else .ok (k.join (members ++ more), r)

/-- The first member may be joined to those that have been read before, as the rounds do one after
the other. -/
theorem joined_cons {c : Char} (hc : c ≠ ')') (k : Connective) (members : List Filter)
    (depth : Nat) (body : List Char) :
    joined k members (readMembers k depth (c :: body)) =
      (readFilter depth (c :: body) >>= fun (f, r) =>
        joined k (members ++ [f]) (readMembers k depth r)) := by
  rw [readMembers_cons hc, joined]
  cases readFilter depth (c :: body) with
  | error e => rfl
  | ok p =>
    obtain ⟨f, r⟩ := p
    -- what has been read so far is put in front in either order
    show (readMembers k depth r >>= _) >>= _ = joined k (members ++ [f]) (readMembers k depth r)
    cases readMembers k depth r with
    | error e => rfl
    | ok q =>
      show (if (members ++ f :: q.1).isEmpty then _ else _) = _
      rw [List.append_cons]
      rfl

/-- What a call for a filter of any kind comes to for the text `rest`. -/
def CallComes (cs : List Char) (depth : Nat) (rest : List Char) : Prop :=
  ∀ place frames, suffixAt cs place = some rest →
    Comes cs ⟨.call .any place, frames, depth⟩ frames depth (readFilter depth rest)

/-- What a conjunction or disjunction comes to that looks for more members in the text `rest`. -/
def RoundComes (cs : List Char) (k : Connective) (depth : Nat) (rest : List Char) : Prop :=
  ∀ place frames members, suffixAt cs place = some rest →
    Comes cs ⟨.round k members place, frames, depth + 1⟩ frames depth
      (joined k members (readMembers k (depth + 1) rest))

/-- A call of a group comes to what the reader gives if the rounds in its body do. -/
theorem comes_group (k : Connective) {rest : List Char} (h : suffixAt cs place = some rest)
    (hround : ∀ body, rest = '(' :: k.symbol :: body → RoundComes cs k depth body) :
    Comes cs ⟨.call k.condition place, frames, depth⟩ frames depth (readGroup k depth rest) := by
  refine comes_of_step ?_
  rw [step, stepCall_condition]
  -- both sides make the same two tests: the mark, then the number of open groups
  by_cases hopen : ∃ body, rest = '(' :: k.symbol :: body
  · obtain ⟨body, rfl⟩ := hopen
    rcases Nat.lt_or_ge depth maxDepth with hlt | hge
    · rw [openMarked_of_lt h hlt, readGroup_of_lt hlt]
      exact hround body rfl _ _ [] (suffixAt_mark (isMark_symbol k) h)
    · rw [openMarked_of_le hge, readGroup_of_le hge]
      exact ⟨0, rfl⟩
  · rw [openMarked_of_ne h (not_exists.mp hopen), readGroup_of_ne (not_exists.mp hopen)]
    exact ⟨0, rfl⟩

/-- Where the reader of any kind has found a filter, a good place is reached. -/
theorem suffixAt_readFilter {rest r : List Char} {f : Filter} (h : suffixAt cs place = some rest)
    (hread : readFilter depth rest = .ok (f, r)) :
    suffixAt cs (byteLength cs - byteLength r) = some r := by
  obtain ⟨t, rfl, -⟩ := stopsAtClose_readFilter depth _ _ _ hread
  rw [List.append_cons] at h
  exact (suffixAt_found h).1

/-- A call of a negation comes to what the reader gives if the call for its member does. -/
theorem comes_negation {rest : List Char} (h : suffixAt cs place = some rest)
    (hcall : ∀ body, rest = '(' :: '!' :: body → CallComes cs (depth + 1) body) :
    Comes cs ⟨.call .negation place, frames, depth⟩ frames depth (readNegation depth rest) := by
  refine comes_of_step ?_
  rw [step, stepCall]
  by_cases hopen : ∃ body, rest = '(' :: '!' :: body
  · obtain ⟨body, rfl⟩ := hopen
    rcases Nat.lt_or_ge depth maxDepth with hlt | hge
    · have hbody := suffixAt_mark (.inr (.inr rfl)) h
      rw [openMarked_of_lt h hlt, readNegation_of_lt hlt]
      refine comes_bind (hcall body rfl _ _ hbody) fun f r hread => ?_
      have hplace := suffixAt_readFilter hbody hread
      refine comes_of_step (comes_of_control_eq ?_)
      -- the member is found; what is left is the parenthesis behind it
      by_cases hclose : ∃ back, r = ')' :: back
      · obtain ⟨back, rfl⟩ := hclose
        rw [if_pos ((byteAt?_eq_close_iff hplace).mpr ⟨back, rfl⟩)]
        rw [place_of_close hplace]
        rfl
      · rw [if_neg fun hb => hclose ((byteAt?_eq_close_iff hplace).mp hb)]
        simp only
        split
        · next back => exact absurd ⟨back, rfl⟩ hclose
        · rfl
    · rw [openMarked_of_le hge, readNegation_of_le hge]
      exact ⟨0, rfl⟩
  · rw [openMarked_of_ne h (not_exists.mp hopen), readNegation_of_ne (not_exists.mp hopen)]
    exact ⟨0, rfl⟩

/-- A round at the end of the text refuses the group. -/
theorem roundComes_nil (k : Connective) (depth : Nat) : RoundComes cs k depth [] := by
  intro place frames members h
  refine comes_of_step ?_
  rw [step, stepRound, (byteAt?_eq_none_iff h).mpr rfl, readMembers_nil]
  exact ⟨0, rfl⟩

/-- A round at a closing parenthesis ends the group. -/
theorem roundComes_close (k : Connective) (depth : Nat) (back : List Char) :
    RoundComes cs k depth (')' :: back) := by
  intro place frames members h
  refine comes_of_step ?_
  rw [step, stepRound, (byteAt?_eq_close_iff h).mpr ⟨back, rfl⟩, readMembers_close]
  simp only [if_true]
  refine comes_of_control_eq ?_
  have hjoined : joined k members (.ok ([], back)) =
      if members.isEmpty then .error k.condition else .ok (k.join members, back) := by
    show (if (members ++ []).isEmpty then _ else _) = _
    rw [List.append_nil]
  rw [hjoined, place_of_close h]
  split
  · rfl
  · rfl

/-- A round anywhere else takes one member, and the others are taken in later rounds. -/
theorem roundComes_cons {c : Char} {body : List Char} (hc : c ≠ ')') (k : Connective)
    (hcall : CallComes cs (depth + 1) (c :: body))
    (hround : ∀ f r, readFilter (depth + 1) (c :: body) = .ok (f, r) → RoundComes cs k depth r) :
    RoundComes cs k depth (c :: body) := by
  intro place frames members h
  obtain ⟨b, hb⟩ : ∃ b, byteAt? cs place = some b := by
    refine Option.ne_none_iff_exists'.mp fun hnone => ?_
    exact List.cons_ne_nil _ _ ((byteAt?_eq_none_iff h).mp hnone)
  -- the first byte of a character is that of a parenthesis only if the character is one
  have hne : b ≠ closeByte := by
    rintro rfl
    obtain ⟨back, hback⟩ := (byteAt?_eq_close_iff h).mp hb
    exact hc (List.cons.inj hback).1
  refine comes_of_step ?_
  rw [step, stepRound, hb, joined_cons hc]
  simp only [if_neg hne]
  refine comes_bind (hcall _ _ h) fun f r hread => comes_of_step ?_
  exact hround f r hread _ _ _ (suffixAt_readFilter h hread)

theorem comes_equality {rest : List Char} (h : suffixAt cs place = some rest) :
    Comes cs ⟨.call .equality place, frames, depth⟩ frames depth (readEquality rest) :=
  comes_of_step (comes_of_control_eq (readAssertion_eq_outcome h))

/-- A call for a filter of any kind comes to what the call that it is passed on to comes to. -/
theorem comes_passOn {rest : List Char} (h : suffixAt cs place = some rest)
    (hopen : ∃ body, rest = '(' :: body)
    (hcall : Comes cs ⟨.call (kindOf rest) place, frames, depth⟩ frames depth
      (readFilter depth rest)) :
    Comes cs ⟨.call .any place, frames, depth⟩ frames depth (readFilter depth rest) := by
  obtain ⟨body, rfl⟩ := hopen
  refine comes_of_step ?_
  rw [step, stepCall, passOn, behind_of_suffixAt h]
  exact hcall

/-- Calls and rounds come to what the readers give, by induction along the readers. -/
theorem comes_reading (rest : List Char) :
    (∀ depth, CallComes cs depth rest) ∧ ∀ k depth, RoundComes cs k depth rest := by
  -- a round is inside of a group, so that one group more is open than where that one started
  have h := reading_induction (P := CallComes cs)
    (Q := fun k depth rest => ∀ outer, depth = outer + 1 → RoundComes cs k outer rest)
    ?group ?negation ?unmarked (fun k depth outer _ => roundComes_nil k outer)
    (fun k depth back outer _ => roundComes_close k outer back) ?cons rest
  · exact ⟨h.1, fun k depth => h.2 k (depth + 1) depth rfl⟩
  case group =>
    intro k depth body hround place frames h
    refine comes_passOn h ⟨_, rfl⟩ ?_
    rw [kindOf_group, readFilter_group]
    refine comes_group k h fun body' hbody => ?_
    obtain rfl : body = body' := (List.cons.inj (List.cons.inj hbody).2).2
    exact hround depth rfl
  case negation =>
    intro depth body hcall place frames h
    refine comes_passOn h ⟨_, rfl⟩ ?_
    rw [readFilter_negation]
    refine comes_negation h fun body' hbody => ?_
    obtain rfl : body = body' := (List.cons.inj (List.cons.inj hbody).2).2
    exact hcall
  case unmarked =>
    intro depth rest hmark place frames h
    by_cases hopen : ∃ body, rest = '(' :: body
    · refine comes_passOn h hopen ?_
      obtain ⟨body, rfl⟩ := hopen
      rw [kindOf_eq_equality_iff.mpr hmark, readFilter_equality hmark]
      exact comes_equality h
    · refine comes_of_step ?_
      rw [step, stepCall, passOn, behind_of_suffixAt h, readFilter_of_ne (not_exists.mp hopen)]
      refine comes_of_control_eq ?_
      split
      · next body => exact absurd ⟨body, rfl⟩ hopen
      · rfl
  case cons =>
    rintro k depth c body hc hcall hround outer rfl
    exact roundComes_cons hc k hcall fun f r hread => hround f r hread outer rfl

/-- A call comes to what the reader of the kind gives for the text at the place, with the readers
that wait and the counter as they were. -/
theorem comes_call (kind : Condition) {rest : List Char} (h : suffixAt cs place = some rest) :
    Comes cs ⟨.call kind place, frames, depth⟩ frames depth (readWith kind depth rest) := by
  cases kind with
  | any => exact (comes_reading rest).1 depth place frames h
  | equality => exact comes_equality h
  | conjunction => exact comes_group .all h fun body _ => (comes_reading body).2 .all depth
  | disjunction => exact comes_group .some h fun body _ => (comes_reading body).2 .some depth
  | negation => exact comes_negation h fun body _ => (comes_reading body).1 (depth + 1)

-- ---------------------------------------------------------------------------
-- Runs from outside
-- ---------------------------------------------------------------------------

/-- The state after `n` steps when the reader of the kind is called from outside for a place. -/
def stateAfter (kind : Condition) (expression : String) (place n : Nat) : State :=
  (step expression.toList)^[n] ⟨.call kind place, [], 0⟩

theorem readOf_eq_readWith (kind : Condition) (s : List Char) :
    readOf kind s = readWith kind 0 s := by
  cases kind <;> rfl

/-- A refusal is an answer, whoever waits. -/
theorem answer?_of_refused {c : Condition} (h : s.control = .refused c) :
    s.answer? = some (.error (.notA c)) := by
  obtain ⟨control, frames, depth⟩ := s
  cases h
  rfl

/-- A run from outside comes to what is answered for the offset. -/
theorem exists_run_eq_parseAt (kind : Condition) {expression : String}
    (h : IsPlace expression.toList place) :
    ∃ n, (stateAfter kind expression place n).answer? = some (parseAt kind expression place) := by
  have hrest := isPlace_iff.mp h
  have hstart : startAt expression.toList place = some (behind expression.toList place) := hrest
  have hcomes : Comes expression.toList ⟨.call kind place, [], 0⟩ [] 0
      (readWith kind 0 (behind expression.toList place)) := comes_call kind hrest
  rw [← readOf_eq_readWith, readOf] at hcomes
  rw [parseAt, hstart]
  simp only
  -- the refusal and the filter alike: the run comes to what the reader gives, which is then
  -- answered
  cases hread : readerOf kind (behind expression.toList place) with
  | error c =>
    rw [hread] at hcomes
    obtain ⟨n, hn⟩ := hcomes
    exact ⟨n, answer?_of_refused hn⟩
  | ok p =>
    rw [hread] at hcomes
    obtain ⟨n, hn⟩ := hcomes
    exact ⟨n, by rw [stateAfter, hn]; rfl⟩

theorem answer?_eq_of_le {m n : Nat} {a : Except FilterError (Filter × Nat)}
    (h : ((step cs)^[m] s).answer? = some a) (hle : m ≤ n) :
    ((step cs)^[n] s).answer? = some a := by
  obtain ⟨d, rfl⟩ := Nat.exists_eq_add_of_le' hle
  rw [Function.iterate_add_apply, run_of_answer h, h]

-- ---------------------------------------------------------------------------
-- Safety
-- ---------------------------------------------------------------------------

/-- What holds of a call for the place in the state `s`. -/
structure SafeCall (cs : List Char) (s : State) (kind : Condition) (place : Nat) : Prop where
  /-- The place is between two characters, and what is behind it is the rest of the text. -/
  isPlace : IsPlace cs place
  le_length : place ≤ byteLength cs
  suffixAt_eq : suffixAt cs place = some (behind cs place)
  depth_le : s.depth ≤ maxDepth
  /-- The call comes to what the reader of the kind gives: back to the readers that wait, with the
  counter as it was, or to a refusal. -/
  comes : Comes cs s s.frames s.depth (readWith kind s.depth (behind cs place))
  /-- Whatever is found from the call on ends behind the place, between two characters. -/
  found_after : ∀ n f last, ((step cs)^[n] s).control = .found f last →
    place < last ∧ last ≤ byteLength cs ∧ IsPlace cs last
  /-- Whatever is found for the readers that wait for the call leaves the counter as it was. -/
  depth_eq : ∀ n f last, ((step cs)^[n] s).control = .found f last →
    ((step cs)^[n] s).frames = s.frames → ((step cs)^[n] s).depth = s.depth

section

variable {kind : Condition} {f : Filter} {k k' : Connective} {members members' : List Filter}
  {first last n : Nat}

theorem answer?_of_call (h : s.control = .call kind place) : s.answer? = none := by
  obtain ⟨control, frames, depth⟩ := s
  cases h
  rfl

theorem answer?_of_round (h : s.control = .round k members place) : s.answer? = none := by
  obtain ⟨control, frames, depth⟩ := s
  cases h
  rfl

/-- What is left to do at a call is bound by what is behind its place. -/
theorem remaining_call_le (cs : List Char) (kind : Condition) (place : Nat) :
    remaining cs (.call kind place) ≤ 4 * (byteLength cs - place) + 2 := by
  cases kind with
  | any => exact le_rfl
  | _ => exact Nat.le_succ _

/-- A filter is found behind every place that readers have been called for before. -/
theorem place_lt_of_found (h : Sound cs s) (hcall : s.control = .call kind place)
    (hlast : ((step cs)^[n] s).control = .found f last) : place < last := by
  have hpos : 0 < n := by
    refine Nat.pos_of_ne_zero ?_
    rintro rfl
    exact absurd (hcall.symm.trans hlast) nofun
  have hlt := remaining_run_lt h (answer?_of_call hcall) hpos
  rw [hlast, hcall] at hlt
  -- what is behind the place is the greater part of what is left to do
  have hless := hlt.trans_le (remaining_call_le cs kind place)
  simp only [remaining] at hless
  omega

/-- A round is at a later place than those before it. -/
theorem place_lt_of_round (h : Sound cs s) (hfirst : s.control = .round k members first)
    (hn : 0 < n) (hlast : ((step cs)^[n] s).control = .round k' members' last) : first < last := by
  have hlt := remaining_run_lt h (answer?_of_round hfirst) hn
  rw [hlast, hfirst] at hlt
  simp only [remaining] at hlt
  omega

/-- What is found in a sound state ends at a good place, with the counter at the number of waiting
readers. -/
theorem isPlace_and_depth_of_found (h : Sound cs s) (hcontrol : s.control = .found f last) :
    IsPlace cs last ∧ s.depth = s.frames.length := by
  cases h with
  | found h hdepth =>
    cases hcontrol
    exact ⟨h, rfl⟩
  | call => contradiction
  | round => contradiction
  | refused => contradiction

/-- A call in a sound state is safe. -/
theorem safeCall_of_sound (h : Sound cs s) (hcall : s.control = .call kind place) :
    SafeCall cs s kind place := by
  -- every later state of the run is sound, so the same is known wherever a filter is found
  have hfound : ∀ n f last, ((step cs)^[n] s).control = .found f last →
      IsPlace cs last ∧ ((step cs)^[n] s).depth = ((step cs)^[n] s).frames.length :=
    fun n f last hlast => isPlace_and_depth_of_found (sound_run h n) hlast
  have hafter : ∀ n f last, ((step cs)^[n] s).control = .found f last → place < last :=
    fun n f last hlast => place_lt_of_found h hcall hlast
  cases h with
  | round => contradiction
  | found => contradiction
  | refused => contradiction
  | @call _ _ frames h hdepth =>
    cases hcall
    refine ⟨h, h.le, isPlace_iff.mp h, hdepth, comes_call kind (isPlace_iff.mp h), ?_, ?_⟩
    · intro n f last hlast
      obtain ⟨hplace, -⟩ := hfound n f last hlast
      exact ⟨hafter n f last hlast, hplace.le, hplace⟩
    · intro n f last hlast hframes
      rw [(hfound n f last hlast).2, hframes]

end

/-- From a good place of an expression, whichever reader is called for it: nothing is asked for that
is not there, every call is safe, each round of a conjunction or disjunction is at a later place
than those before, and the run ends, with what is answered for the offset. -/
theorem stateAfter_safe (kind : Condition) (expression : String) (place : Nat)
    (h : IsPlace expression.toList place) :
    let state := stateAfter kind expression place
    (∀ n, (state n).control ≠ .broken) ∧
    (∀ n called first, (state n).control = .call called first →
      SafeCall expression.toList (state n) called first) ∧
    (∀ m n k k' members members' first last, m < n → (state m).control = .round k members first →
      (state n).control = .round k' members' last → first < last) ∧
    ∀ n, 4 * (byteLength expression.toList - place) + 2 ≤ n →
      (state n).answer? = some (parseAt kind expression place) := by
  intro state
  have hstart : Sound expression.toList ⟨.call kind place, [], 0⟩ := .call h (Nat.zero_le _)
  have hsound : ∀ n, Sound expression.toList (state n) := sound_run hstart
  refine ⟨fun n => (hsound n).control_ne_broken, fun n called first => safeCall_of_sound (hsound n),
    ?rounds, ?answered⟩
  case rounds =>
    intro m n k k' members members' first last hmn hfirst hlast
    obtain ⟨d, rfl⟩ := Nat.exists_eq_add_of_lt hmn
    have hrun : state (m + d + 1) = (step expression.toList)^[d + 1] (state m) := by
      rw [Nat.add_assoc, Nat.add_comm]
      exact Function.iterate_add_apply _ _ _ _
    rw [hrun] at hlast
    exact place_lt_of_round (hsound m) hfirst (Nat.succ_pos d) hlast
  case answered =>
    intro n hn
    obtain ⟨a, ha⟩ := exists_answer hstart ((remaining_call_le _ kind place).trans hn)
    obtain ⟨m, hm⟩ := exists_run_eq_parseAt kind h
    -- both answers are still there when the later of them has been given
    have ha' := answer?_eq_of_le ha (Nat.le_max_left n m)
    have hm' := answer?_eq_of_le hm (Nat.le_max_right n m)
    exact ha.trans (ha'.symm.trans hm')

/-- A negation in a conjunction, behind characters of two bytes: it is called for with one group
open, and the counter is as high again when it comes back. -/
theorem stateAfter_safe_negation :
    let text := "é(&(État=*)(!(b=c)))"
    let state := stateAfter .any text 2
    let member := Filter.equals "état" "*"
    let negation := Filter.negation (Filter.equals "b" "c")
    IsPlace text.toList 2 ∧
    state 8 = ⟨.call .negation 13, [.several .all [member]], 1⟩ ∧
    SafeCall text.toList (state 8) .negation 13 ∧
    (step text.toList)^[4] (state 8) = ⟨.found negation 21, [.several .all [member]], 1⟩ ∧
    (state 2).control = .round .all [] 4 ∧
    (state 13).control = .round .all [member, negation] 21 ∧ 4 < 21 ∧
    (state 82).answer? = some (parseAt .any text 2) ∧
    parseAt .any text 2 = .ok (.conjunction [member, negation], 22) := by
  intro text state member negation
  have hplace : IsPlace text.toList 2 := isPlace_iff.mpr (by decide +kernel)
  obtain ⟨-, hcalls, hrounds, hanswer⟩ := stateAfter_safe .any text 2 hplace
  have hcall : state 8 = ⟨.call .negation 13, [.several .all [member]], 1⟩ := by decide +kernel
  have hfirst : (state 2).control = .round .all [] 4 := by decide +kernel
  have hlast : (state 13).control = .round .all [member, negation] 21 := by decide +kernel
  exact ⟨hplace, hcall, hcalls 8 _ _ (congrArg State.control hcall), by decide +kernel, hfirst,
    hlast, hrounds 2 13 _ _ _ _ _ _ (by decide) hfirst hlast, hanswer 82 (by decide),
    by decide +kernel⟩

end UserDirectory.Filter.Stepwise
