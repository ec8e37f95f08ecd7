import Mathlib.Logic.Function.Iterate
import UserDirectory.Regex.Matching

/-!
# UserDirectory — what the search for matches finds

The search follows all matches at once, with sets of positions written as numbers. It finds what the
rules of matching say: a set is taken to the positions at which a match ends that starts in it. A
repetition stops as soon as no new position turns up; nothing is lost by that, since a match never
goes back, so that turns which take no character may be left out.

## Results

* `testBit_spread`      — what a search that visits each position once has seen in the end.
* `matches_rep_iff`     — a repetition, by the number of its turns.
* `matches_rep_set_iff` — a repetition of a set, by the stretch of the text that it takes.
* `testBit_ends_iff`    — where matches end that start at one of the given positions.
* `isMatch_iff_finds`   — an expression is found in a text if it matches some stretch of it.
-/

namespace UserDirectory.Regex

-- ---------------------------------------------------------------------------
-- Sets of positions
-- ---------------------------------------------------------------------------

/-- Whether the set holds positions up to `n` only. -/
def Within (n xs : Nat) : Prop := ∀ i, xs.testBit i = true → i ≤ n

/-- So many turns of a relation between positions. -/
inductive Turns (R : Nat → Nat → Prop) : Nat → Nat → Nat → Prop where
  | zero {i} : Turns R 0 i i
  | succ {n i j k} (h : R i j) (hs : Turns R n j k) : Turns R (n + 1) i k

/-- Whether a step takes sets of positions up to `n` along the relation, which never goes back. -/
structure Follows (n : Nat) (step : Nat → Nat) (R : Nat → Nat → Prop) : Prop where
  le : ∀ {i j}, R i j → i ≤ j
  le_last : ∀ {i j}, R i j → j ≤ n
  testBit_iff : ∀ {xs}, Within n xs → ∀ j,
    (step xs).testBit j = true ↔ ∃ i, xs.testBit i = true ∧ R i j

section

variable {R : Nat → Nat → Prop} {a b i j k n m : Nat} {step : Nat → Nat} {xs seen frontier : Nat}

/-- Turns in a row may be cut into first ones and others. -/
theorem turns_add_iff : Turns R (a + b) i k ↔ ∃ j, Turns R a i j ∧ Turns R b j k := by
  -- forwards the induction is on the number of the first turns, backwards on those turns themselves
  constructor
  · intro h
    induction a generalizing i with
    | zero =>
      rw [Nat.zero_add] at h
      exact ⟨i, .zero, h⟩
    | succ a ih =>
      rw [Nat.add_right_comm] at h
      cases h with
      | succ h hs =>
        obtain ⟨j, hfirst, hothers⟩ := ih hs
        exact ⟨j, .succ h hfirst, hothers⟩
  · rintro ⟨j, hfirst, hothers⟩
    induction hfirst with
    | zero =>
      rw [Nat.zero_add]
      exact hothers
    | succ h _ ih =>
      rw [Nat.add_right_comm]
      exact .succ h (ih hothers)

theorem Follows.within_step (h : Follows n step R) (hxs : Within n xs) : Within n (step xs) := by
  intro j hj
  obtain ⟨i, -, hij⟩ := (h.testBit_iff hxs j).mp hj
  exact h.le_last hij

/-- However many steps are done, they stay within the positions of the text. -/
theorem Follows.within_iterate (h : Follows n step R) (hxs : Within n xs) (m : Nat) :
    Within n (step^[m] xs) := by
  induction m generalizing xs with
  | zero => exact hxs
  | succ m ih => exact ih (h.within_step hxs)

/-- Turns that stay where they are may be left out. -/
theorem Follows.exists_turns_le (h : Follows n step R) (hturns : Turns R m i j) :
    i ≤ j ∧ ∃ m' ≤ j - i, Turns R m' i j := by
  induction hturns with
  | zero => exact ⟨Nat.le_refl _, 0, Nat.zero_le _, .zero⟩
  | @succ m i l j hstep _ ih =>
    obtain ⟨hle, m', hm', hturns'⟩ := ih
    have hil := h.le hstep
    refine ⟨Nat.le_trans hil hle, ?_⟩
    rcases Nat.lt_or_eq_of_le hil with hlt | rfl
    · exact ⟨m' + 1, by omega, .succ hstep hturns'⟩
    · exact ⟨m', hm', hturns'⟩

theorem Follows.le_of_turns (h : Follows n step R) (hi : i ≤ n) (hturns : Turns R m i j) :
    j ≤ n := by
  induction hturns with
  | zero => exact hi
  | succ hstep _ ih => exact ih (h.le_last hstep)

/-- A set that does not change any more is not worth another step. -/
theorem iterate_eq (step : Nat → Nat) (m xs : Nat) : iterate step m xs = step^[m] xs := by
  induction m generalizing xs with
  | zero => rfl
  | succ m ih =>
    rw [iterate]
    by_cases hsame : step xs = xs
    · rw [if_pos hsame, Function.iterate_fixed hsame]
    · rw [if_neg hsame, ih, Function.iterate_succ_apply]

/-- So many steps lead to what is that many turns away. -/
theorem testBit_iterate (h : Follows n step R) (hxs : Within n xs) (m j : Nat) :
    (iterate step m xs).testBit j = true ↔ ∃ i, xs.testBit i = true ∧ Turns R m i j := by
  rw [iterate_eq]
  induction m generalizing xs with
  | zero =>
    constructor
    · exact fun hj => ⟨j, hj, .zero⟩
    · rintro ⟨i, hi, hturns⟩
      cases hturns
      exact hi
  | succ m ih =>
    -- the step is done first and the other turns start from where it leads
    rw [Function.iterate_succ_apply, ih (h.within_step hxs)]
    constructor
    · rintro ⟨l, hl, hturns⟩
      obtain ⟨i, hi, hil⟩ := (h.testBit_iff hxs l).mp hl
      exact ⟨i, hi, .succ hil hturns⟩
    · rintro ⟨i, hi, hturns⟩
      cases hturns with
      | @succ _ _ l _ hil hturns => exact ⟨l, (h.testBit_iff hxs l).mpr ⟨i, hi, hil⟩, hturns⟩

-- ---------------------------------------------------------------------------
-- Positions that are visited once
-- ---------------------------------------------------------------------------

theorem testBit_fresh (reached seen i : Nat) :
    (reached ^^^ (reached &&& seen)).testBit i = (reached.testBit i && !seen.testBit i) := by
  rw [Nat.testBit_xor, Nat.testBit_and]
  cases reached.testBit i <;> cases seen.testBit i <;> rfl

/-- What is known of a search on the way: the frontier has been seen, and so has all that is one turn
away from positions behind it. -/
structure Searched (R : Nat → Nat → Prop) (n seen frontier : Nat) : Prop where
  within : Within n seen
  seen_of_frontier : ∀ i, frontier.testBit i = true → seen.testBit i = true
  seen_of_turn : ∀ i j, seen.testBit i = true → frontier.testBit i = false → R i j →
    seen.testBit j = true

/-- Before the first round all that has been seen is the frontier. -/
theorem Searched.start (hxs : Within n xs) : Searched R n xs xs where
  within := hxs
  seen_of_frontier _ hi := hi
  seen_of_turn i j hi hnot _ := absurd hi (by rw [hnot]; exact Bool.false_ne_true)

theorem Searched.within_frontier (hs : Searched R n seen frontier) : Within n frontier :=
  fun i hi => hs.within i (hs.seen_of_frontier i hi)

/-- One round of the search. -/
theorem Searched.round (h : Follows n step R) (hs : Searched R n seen frontier) :
    Searched R n (seen ||| (step frontier ^^^ (step frontier &&& seen)))
      (step frontier ^^^ (step frontier &&& seen)) where
  within i hi := by
    rw [Nat.testBit_or, Bool.or_eq_true, testBit_fresh, Bool.and_eq_true] at hi
    rcases hi with hi | ⟨hi, -⟩
    · exact hs.within i hi
    · exact h.within_step hs.within_frontier i hi
  seen_of_frontier i hi := by
    rw [Nat.testBit_or, hi, Bool.or_true]
  seen_of_turn i j hi hnot hij := by
    rw [Nat.testBit_or, hnot, Bool.or_false] at hi
    rw [Nat.testBit_or, testBit_fresh]
    -- a turn from the frontier is in this round, and one from behind it was seen before
    by_cases hfrontier : frontier.testBit i = true
    · have hreached := (h.testBit_iff hs.within_frontier j).mpr ⟨i, hfrontier, hij⟩
      rw [hreached, Bool.true_and, Bool.or_not_self]
    · rw [Bool.not_eq_true] at hfrontier
      rw [hs.seen_of_turn i j hi hfrontier hij, Bool.true_or]

/-- What has been seen stays seen. -/
theorem testBit_spread_of_seen (step : Nat → Nat) (m : Nat) {seen : Nat}
    (hj : seen.testBit j = true) (frontier : Nat) :
    (spread step m seen frontier).testBit j = true := by
  induction m generalizing seen frontier with
  | zero => exact hj
  | succ m ih =>
    rw [spread]
    split
    · exact hj
    · refine ih ?_ _
      rw [Nat.testBit_or, hj, Bool.true_or]

/-- What has been seen in the end is at most so many turns away. -/
theorem exists_turns_of_spread (h : Follows n step R) (hs : Searched R n seen frontier)
    (hj : (spread step m seen frontier).testBit j = true) :
    ∃ i, seen.testBit i = true ∧ ∃ m' ≤ m, Turns R m' i j := by
  induction m generalizing seen frontier with
  | zero => exact ⟨j, hj, 0, Nat.le_refl _, .zero⟩
  | succ m ih =>
    rw [spread] at hj
    split at hj
    · exact ⟨j, hj, 0, Nat.zero_le _, .zero⟩
    · obtain ⟨i, hi, m', hm', hturns⟩ := ih (hs.round h) hj
      rw [Nat.testBit_or, Bool.or_eq_true, testBit_fresh, Bool.and_eq_true] at hi
      rcases hi with hi | ⟨hi, -⟩
      · exact ⟨i, hi, m', Nat.le_succ_of_le hm', hturns⟩
      · obtain ⟨l, hl, hli⟩ := (h.testBit_iff hs.within_frontier i).mp hi
        exact ⟨l, hs.seen_of_frontier l hl, m' + 1, Nat.succ_le_succ hm', .succ hli hturns⟩

/-- All that is at most so many turns away has been seen in the end. A first turn that leads to a
position that has been seen is saved; any other one starts in the frontier and takes a round. -/
theorem testBit_spread_of_turns (h : Follows n step R) (hs : Searched R n seen frontier)
    (hi : seen.testBit i = true) {m' : Nat} (hm' : m' ≤ m) (hturns : Turns R m' i j) :
    (spread step m seen frontier).testBit j = true := by
  induction m generalizing seen frontier i j m' with
  | zero =>
    obtain rfl : m' = 0 := Nat.le_zero.mp hm'
    cases hturns
    exact hi
  | succ m ih =>
    -- first over the rounds, then over the turns: a turn to a position that has been seen costs no
    -- round
    induction hturns with
    | zero => exact testBit_spread_of_seen step (m + 1) hi frontier
    | @succ m' i l j hil hturns ihTurns =>
      by_cases hl : seen.testBit l = true
      · exact ihTurns hl (Nat.le_of_succ_le hm')
      · have hfrontier : frontier.testBit i = true := by
          by_contra hnot
          rw [Bool.not_eq_true] at hnot
          exact hl (hs.seen_of_turn i l hi hnot hil)
        have hreached := (h.testBit_iff hs.within_frontier l).mpr ⟨i, hfrontier, hil⟩
        rw [Bool.not_eq_true] at hl
        have hfresh : (step frontier ^^^ (step frontier &&& seen)).testBit l = true := by
          rw [testBit_fresh, hreached, hl]
          rfl
        -- a new position turned up, so the search does not stop here
        have hne : step frontier ^^^ (step frontier &&& seen) ≠ 0 := by
          intro hzero
          rw [hzero, Nat.zero_testBit] at hfresh
          contradiction
        rw [spread]
        simp only [hne, if_false]
        refine ih (hs.round h) ?_ (Nat.le_of_succ_le_succ hm') hturns
        rw [Nat.testBit_or, hfresh, Bool.or_true]

/-- What a search that visits each position once has seen in the end: all that is at most so many
turns away from where it started. -/
theorem testBit_spread (h : Follows n step R) (hxs : Within n xs) (m j : Nat) :
    (spread step m xs xs).testBit j = true ↔
      ∃ i, xs.testBit i = true ∧ ∃ m' ≤ m, Turns R m' i j := by
  constructor
  · exact exists_turns_of_spread h (.start hxs)
  · rintro ⟨i, hi, m', hm', hturns⟩
    exact testBit_spread_of_turns h (.start hxs) hi hm' hturns

end

-- ---------------------------------------------------------------------------
-- Rules of matching
-- ---------------------------------------------------------------------------

section

variable {text : List Char} {r s : Regex} {i j k : Nat}

/-- A match lies in the text and never goes back. -/
theorem Matches.le (h : Matches text r i j) : i ≤ j ∧ j ≤ text.length := by
  induction h with
  | empty hi => exact ⟨Nat.le_refl _, hi⟩
  | set hc _ =>
    obtain ⟨hlt, -⟩ := List.getElem?_eq_some_iff.mp hc
    exact ⟨Nat.le_succ _, hlt⟩
  | assertion hi _ => exact ⟨Nat.le_refl _, hi⟩
  | group _ ih => exact ih
  | seq _ _ ih ih' => exact ⟨Nat.le_trans ih.1 ih'.1, ih'.2⟩
  | left _ ih => exact ih
  | right _ ih => exact ih
  | stop hi => exact ⟨Nat.le_refl _, hi⟩
  | more _ _ _ ih ih' => exact ⟨Nat.le_trans ih.1 ih'.1, ih'.2⟩

/-- The empty expression matches the empty stretches of the text. -/
theorem matches_empty_iff : Matches text .empty i j ↔ i = j ∧ i ≤ text.length := by
  constructor
  · intro h
    cases h with
    | empty hi => exact ⟨rfl, hi⟩
  · rintro ⟨rfl, hi⟩
    exact .empty hi

/-- A set matches one character that it contains. -/
theorem matches_set_iff {cs : CharSet} :
    Matches text (.set cs) i j ↔ j = i + 1 ∧ ∃ c, text[i]? = some c ∧ cs.contains c = true := by
  constructor
  · intro h
    cases h with
    | set hc hcs => exact ⟨rfl, _, hc, hcs⟩
  · rintro ⟨rfl, c, hc, hcs⟩
    exact .set hc hcs

/-- An assertion matches the empty stretches at which it holds of the characters on either side. -/
theorem matches_assertion_iff {a : Assertion} :
    Matches text (.assertion a) i j ↔
      i = j ∧ i ≤ text.length ∧ a.holds ((text.take i).getLast?) text[i]? = true := by
  constructor
  · intro h
    cases h with
    | assertion hi ha => exact ⟨rfl, hi, ha⟩
  · rintro ⟨rfl, hi, ha⟩
    exact .assertion hi ha

/-- A group matches what its body matches, whether it is numbered or not. -/
theorem matches_group_iff {numbered : Bool} :
    Matches text (.group numbered r) i j ↔ Matches text r i j := by
  constructor
  · intro h
    cases h with
    | group h => exact h
  · exact .group

/-- Two expressions in a row match two stretches that meet. -/
theorem matches_seq_iff :
    Matches text (.seq r s) i k ↔ ∃ j, Matches text r i j ∧ Matches text s j k := by
  constructor
  · intro h
    cases h with
    | seq hr hs => exact ⟨_, hr, hs⟩
  · rintro ⟨j, hr, hs⟩
    exact .seq hr hs

/-- Alternatives match what one of them matches. -/
theorem matches_alt_iff :
    Matches text (.alt r s) i j ↔ Matches text r i j ∨ Matches text s i j := by
  constructor
  · intro h
    cases h with
    | left hr => exact .inl hr
    | right hs => exact .inr hs
  · rintro (hr | hs)
    · exact .left hr
    · exact .right hs

/-- Whether so many turns are within the bounds of a repetition. -/
def InBounds (min : Nat) (max : Option Nat) (n : Nat) : Prop := min ≤ n ∧ ∀ m ∈ max, n ≤ m

/-- A match of a repetition is made of turns, as many as the bounds allow. The bounds go down by one
with every turn that is taken, so they are not fixed in the induction. -/
theorem exists_turns_of_matches_rep {min : Nat} {max : Option Nat} {greedy : Bool}
    (h : Matches text (.rep r min max greedy) i k) :
    i ≤ text.length ∧ ∃ n, InBounds min max n ∧ Turns (Matches text r) n i k := by
  generalize hrep : Regex.rep r min max greedy = whole at h
  induction h generalizing min max with
  | stop hi =>
    cases hrep
    exact ⟨hi, 0, ⟨Nat.le_refl _, fun _ _ => Nat.zero_le _⟩, .zero⟩
  | more hone _ hmax _ ih =>
    cases hrep
    obtain ⟨-, n, ⟨hmin, hbound⟩, hturns⟩ := ih rfl
    refine ⟨Nat.le_trans hone.le.1 hone.le.2, n + 1, ⟨by omega, fun m hm => ?_⟩,
      .succ hone hturns⟩
    -- a bound of no turns at all would have ruled out this one
    have hpos : m ≠ 0 := by
      rintro rfl
      exact hmax hm
    have hless := hbound (m - 1) (Option.map_eq_some_iff.mpr ⟨m, hm, rfl⟩)
    omega
  | empty | set | assertion | group | seq | left | right => cases hrep

/-- Turns, as many as the bounds allow, make a match of a repetition. -/
theorem matches_rep_of_turns {min n : Nat} {max : Option Nat} (greedy : Bool)
    (hi : i ≤ text.length) (hn : InBounds min max n) (h : Turns (Matches text r) n i k) :
    Matches text (.rep r min max greedy) i k := by
  induction h generalizing min max with
  | zero =>
    obtain rfl : min = 0 := Nat.le_zero.mp hn.1
    exact .stop hi
  | @succ n i j k hone _ ih =>
    -- one turn is done: both bounds of what is left go down by one
    refine .more hone (ih hone.le.2 ⟨?_, fun m hm => ?_⟩) ?_
    · have hmin := hn.1
      omega
    · obtain ⟨l, hl, rfl⟩ := Option.map_eq_some_iff.mp hm
      have hmax := hn.2 l hl
      omega
    · rintro rfl
      have hmax := hn.2 0 rfl
      omega

/-- A repetition matches in as many turns as its bounds allow. -/
theorem matches_rep_iff {min : Nat} {max : Option Nat} {greedy : Bool} :
    Matches text (.rep r min max greedy) i k ↔
      i ≤ text.length ∧ ∃ n, InBounds min max n ∧ Turns (Matches text r) n i k := by
  constructor
  · exact exists_turns_of_matches_rep
  · rintro ⟨hi, n, hn, hturns⟩
    exact matches_rep_of_turns greedy hi hn hturns

end

-- ---------------------------------------------------------------------------
-- Stretches
-- ---------------------------------------------------------------------------

/-- Whether the characters of a text from one position to another are these. -/
def Stretch (text : List Char) (i k : Nat) (t : List Char) : Prop :=
  ∃ a b, text = a ++ t ++ b ∧ a.length = i ∧ i + t.length = k

section

variable {text : List Char} {i k : Nat}

/-- The empty text is a stretch at every position. -/
theorem stretch_nil_iff : Stretch text i k [] ↔ i = k ∧ i ≤ text.length := by
  constructor
  · rintro ⟨a, b, rfl, rfl, rfl⟩
    exact ⟨rfl, by simp⟩
  · rintro ⟨rfl, hi⟩
    refine ⟨text.take i, text.drop i, ?_, List.length_take_of_le hi, rfl⟩
    rw [List.append_nil, List.take_append_drop]

/-- A single character is a stretch where it stands. -/
theorem stretch_singleton_iff {c : Char} :
    Stretch text i k [c] ↔ k = i + 1 ∧ text[i]? = some c := by
  constructor
  · rintro ⟨a, b, rfl, rfl, rfl⟩
    exact ⟨rfl, by simp⟩
  · rintro ⟨rfl, hc⟩
    obtain ⟨hi, rfl⟩ := List.getElem?_eq_some_iff.mp hc
    refine ⟨text.take i, text.drop (i + 1), ?_, List.length_take_of_le (Nat.le_of_lt hi), rfl⟩
    rw [List.append_assoc, List.singleton_append, List.getElem_cons_drop, List.take_append_drop]

/-- A stretch may be cut anywhere, and stretches that meet make one. -/
theorem stretch_append_iff {s t : List Char} :
    Stretch text i k (s ++ t) ↔ ∃ j, Stretch text i j s ∧ Stretch text j k t := by
  constructor
  · rintro ⟨a, b, rfl, rfl, rfl⟩
    refine ⟨a.length + s.length, ⟨a, t ++ b, ?_, rfl, rfl⟩, a ++ s, b, ?_, ?_, ?_⟩
    · simp only [List.append_assoc]
    · simp only [List.append_assoc]
    · exact List.length_append
    · rw [List.length_append, Nat.add_assoc]
  · rintro ⟨j, ⟨a, b, htext, rfl, rfl⟩, a', b', htext', hlength, rfl⟩
    have hfront : a ++ s = a' := by
      have hsame : (a ++ s) ++ b = a' ++ (t ++ b') := by
        rw [← List.append_assoc a', ← htext', htext]
      exact List.append_inj_left hsame (by rw [List.length_append, hlength])
    refine ⟨a, b', ?_, rfl, by rw [List.length_append, Nat.add_assoc]⟩
    rw [htext', ← hfront]
    simp only [List.append_assoc]

/-- A stretch starts with the character where it starts, and the others follow there. -/
theorem stretch_cons_iff {c : Char} {t : List Char} :
    Stretch text i k (c :: t) ↔ text[i]? = some c ∧ Stretch text (i + 1) k t := by
  have happend : Stretch text i k ([c] ++ t) ↔ _ := stretch_append_iff
  rw [← List.singleton_append, happend]
  simp only [stretch_singleton_iff, and_assoc, exists_eq_left]

theorem matches_set_single_iff {c : Char} :
    Matches text (.set (.single c)) i k ↔ Stretch text i k [c] := by
  rw [matches_set_iff, stretch_singleton_iff]
  simp only [CharSet.contains_single, beq_iff_eq, exists_eq_right]

/-- Each turn of a set takes one character of it. -/
theorem turns_set_iff {cs : CharSet} {n : Nat} (hi : i ≤ text.length) :
    Turns (Matches text (.set cs)) n i k ↔
      ∃ t, t.length = n ∧ (∀ c ∈ t, cs.contains c = true) ∧ Stretch text i k t := by
  induction n generalizing i with
  | zero =>
    constructor
    · intro h
      cases h
      exact ⟨[], rfl, by simp, stretch_nil_iff.mpr ⟨rfl, hi⟩⟩
    · rintro ⟨t, ht, -, hstretch⟩
      obtain rfl := List.length_eq_zero_iff.mp ht
      obtain ⟨rfl, -⟩ := stretch_nil_iff.mp hstretch
      exact .zero
  | succ n ih =>
    constructor
    · intro h
      cases h with
      | succ hone hothers =>
        obtain ⟨t, ht, hall, hstretch⟩ := (ih hone.le.2).mp hothers
        obtain ⟨rfl, c, hc, hcs⟩ := matches_set_iff.mp hone
        refine ⟨c :: t, by rw [List.length_cons, ht], ?_, stretch_cons_iff.mpr ⟨hc, hstretch⟩⟩
        intro d hd
        rcases List.mem_cons.mp hd with rfl | hd
        · exact hcs
        · exact hall d hd
    · rintro ⟨t, ht, hall, hstretch⟩
      -- the first turn takes the first character of the stretch
      obtain ⟨c, t, rfl⟩ := List.exists_cons_of_length_eq_add_one ht
      obtain ⟨hc, hrest⟩ := stretch_cons_iff.mp hstretch
      have hone : Matches text (.set cs) i (i + 1) :=
        matches_set_iff.mpr ⟨rfl, c, hc, hall c List.mem_cons_self⟩
      refine .succ hone ((ih hone.le.2).mpr ⟨t, Nat.succ.inj ht, ?_, hrest⟩)
      exact fun d hd => hall d (List.mem_cons_of_mem _ hd)

/-- A set that may be repeated any number of times takes stretches of its characters. -/
theorem matches_rep_set_iff {cs : CharSet} {greedy : Bool} :
    Matches text (.rep (.set cs) 0 none greedy) i k ↔
      ∃ t, (∀ c ∈ t, cs.contains c = true) ∧ Stretch text i k t := by
  rw [matches_rep_iff]
  constructor
  · rintro ⟨hi, n, -, hturns⟩
    obtain ⟨t, -, hall, hstretch⟩ := (turns_set_iff hi).mp hturns
    exact ⟨t, hall, hstretch⟩
  · rintro ⟨t, hall, hstretch⟩
    have hi : i ≤ text.length := by
      obtain ⟨a, b, rfl, rfl, -⟩ := hstretch
      simp only [List.length_append]
      omega
    have hbounds : InBounds 0 none t.length := ⟨Nat.zero_le _, by simp⟩
    exact ⟨hi, t.length, hbounds, (turns_set_iff hi).mpr ⟨t, rfl, hall, hstretch⟩⟩

end

-- ---------------------------------------------------------------------------
-- Positions of characters
-- ---------------------------------------------------------------------------

/-- Sets of positions are built from the front of the text: one bit for its start, and the others
moved up by one place. -/
theorem testBit_ite_add (b : Bool) (n : Nat) :
    ∀ i, ((if b then 1 else 0) + 2 * n).testBit i = match i with
      | 0 => b
      | i + 1 => n.testBit i
  | 0 => by
    rw [Nat.testBit_zero]
    cases b <;> simp
  | i + 1 => by
    have hhalf : ((if b = true then 1 else 0) + 2 * n) / 2 = n := by
      split <;> omega
    rw [Nat.testBit_succ, hhalf]

/-- The marks of a text are the positions of characters with the property. -/
theorem testBit_marks (p : Char → Bool) (cs : List Char) (i : Nat) :
    (marks p cs).testBit i = true ↔ ∃ c, cs[i]? = some c ∧ p c = true := by
  induction cs generalizing i with
  | nil => simp [marks]
  | cons c cs ih =>
    rw [marks, testBit_ite_add]
    cases i with
    | zero => simp
    | succ i => simpa using ih i

/-- The marks for an assertion are the positions of the text at which it holds; at its start it
looks at the character before, if there is one. -/
theorem testBit_assertionMarks (a : Assertion) (before : Option Char) (cs : List Char) (i : Nat) :
    (assertionMarks a before cs).testBit i = true ↔
      i ≤ cs.length ∧ a.holds ((before.toList ++ cs.take i).getLast?) cs[i]? = true := by
  induction cs generalizing before i with
  | nil =>
    have hsingle := testBit_ite_add (a.holds before none) 0 i
    rw [Nat.mul_zero, Nat.add_zero] at hsingle
    rw [assertionMarks, hsingle]
    cases i with
    | zero => cases before <;> simp
    | succ i => simp
  | cons c cs ih =>
    rw [assertionMarks, testBit_ite_add]
    cases i with
    | zero => cases before <;> simp
    | succ i =>
      -- behind the first character, the one before is that character or a later one
      have hlast : (before.toList ++ (c :: cs).take (i + 1)).getLast? =
          ((some c).toList ++ cs.take i).getLast? := by
        rw [List.take_succ_cons, Option.toList_some, List.singleton_append, List.getLast?_append,
          List.getLast?_cons, Option.some_or]
      rw [hlast]
      simpa using ih (some c) i

theorem within_allPositions (text : List Char) : Within text.length (allPositions text) := by
  intro i hi
  rw [allPositions, show Nat.pow 2 (text.length + 1) = 2 ^ (text.length + 1) from rfl,
    Nat.testBit_two_pow_sub_one, decide_eq_true_eq] at hi
  exact Nat.le_of_lt_succ hi

theorem testBit_allPositions {text : List Char} {i : Nat} (hi : i ≤ text.length) :
    (allPositions text).testBit i = true := by
  rw [allPositions, show Nat.pow 2 (text.length + 1) = 2 ^ (text.length + 1) from rfl,
    Nat.testBit_two_pow_sub_one, decide_eq_true_eq]
  exact Nat.lt_succ_of_le hi

-- ---------------------------------------------------------------------------
-- The search
-- ---------------------------------------------------------------------------

/-- Whether the bounds of the repetitions in an expression are in order. -/
def IsOrdered : Regex → Prop
  | .empty | .set _ | .assertion _ => True
  | .group _ r => r.IsOrdered
  | .seq r s | .alt r s => r.IsOrdered ∧ s.IsOrdered
  | .rep r min max _ => r.IsOrdered ∧ ∀ m ∈ max, min ≤ m

section

variable {text : List Char} {r : Regex}

/-- What is to be shown of an expression: the search goes where its matches go. -/
theorem follows_of_testBit_ends
    (h : ∀ {starts}, Within text.length starts → ∀ j,
      (ends text r starts).testBit j = true ↔ ∃ i, starts.testBit i = true ∧ Matches text r i j) :
    Follows text.length (ends text r) (Matches text r) where
  le h := h.le.1
  le_last h := h.le.2
  testBit_iff := h

/-- How many turns are followed beyond those that a repetition takes at least. -/
def turnsBeyond (text : List Char) (min : Nat) : Option Nat → Nat
  | none => text.length + 1
  | some m => m - min

/-- A repetition first takes the turns that it must, then spreads over those that it may. -/
theorem ends_rep (min : Nat) (max : Option Nat) (greedy : Bool) (starts : Nat) :
    ends text (.rep r min max greedy) starts =
      spread (ends text r) (turnsBeyond text min max) (iterate (ends text r) min starts)
        (iterate (ends text r) min starts) := by
  cases max <;> rfl

/-- The search for a repetition goes where its matches go, if that for its body does. -/
theorem follows_rep {min : Nat} {max : Option Nat} (greedy : Bool)
    (h : Follows text.length (ends text r) (Matches text r)) (hmax : ∀ m ∈ max, min ≤ m) :
    Follows text.length (ends text (.rep r min max greedy))
      (Matches text (.rep r min max greedy)) := by
  refine follows_of_testBit_ends fun {starts} hstarts j => ?_
  have hleast : Within text.length (iterate (ends text r) min starts) := by
    rw [iterate_eq]
    exact h.within_iterate hstarts min
  rw [ends_rep, testBit_spread h hleast]
  simp only [testBit_iterate h hstarts, matches_rep_iff]
  -- a number of turns within the bounds is the least number and some turns beyond it
  constructor
  · rintro ⟨l, ⟨i, hi, hfirst⟩, n, hn, hothers⟩
    refine ⟨i, hi, hstarts i hi, min + n, ⟨Nat.le_add_right _ _, fun m hm => ?_⟩,
      turns_add_iff.mpr ⟨l, hfirst, hothers⟩⟩
    have hle := hmax m hm
    rw [Option.mem_def.mp hm, turnsBeyond] at hn
    omega
  · rintro ⟨i, hi, -, n, ⟨hmin, hbound⟩, hturns⟩
    obtain ⟨beyond, rfl⟩ := Nat.exists_eq_add_of_le hmin
    obtain ⟨l, hfirst, hothers⟩ := turns_add_iff.mp hturns
    refine ⟨l, ⟨i, hi, hfirst⟩, ?_⟩
    cases max with
    | some m =>
      have hle := hbound m rfl
      refine ⟨beyond, ?_, hothers⟩
      rw [turnsBeyond]
      omega
    | none =>
      have hj := h.le_of_turns (hstarts i hi) hturns
      -- without a bound, turns that stay in place are left out, so no more are needed than the text
      -- has characters
      obtain ⟨-, n', hn', hfewer⟩ := h.exists_turns_le hothers
      refine ⟨n', ?_, hfewer⟩
      rw [turnsBeyond]
      omega

/-- The search goes where the matches of an expression go: one case for each kind of expression. -/
theorem follows_ends (text : List Char) {r : Regex} (hr : r.IsOrdered) :
    Follows text.length (ends text r) (Matches text r) := by
  -- a step from a set of positions is compared with the matches from each of its members, bit by
  -- bit
  induction r with
  | empty =>
    refine follows_of_testBit_ends fun {starts} hstarts j => ?_
    simp only [ends, matches_empty_iff]
    constructor
    · exact fun hj => ⟨j, hj, rfl, hstarts j hj⟩
    · rintro ⟨i, hi, rfl, -⟩
      exact hi
  | set cs =>
    refine follows_of_testBit_ends fun {starts} hstarts j => ?_
    simp only [ends, matches_set_iff, Nat.testBit_shiftLeft, Nat.testBit_and, Bool.and_eq_true,
      decide_eq_true_eq, testBit_marks]
    constructor
    · rintro ⟨hj, hi, hc⟩
      exact ⟨j - 1, hi, by omega, hc⟩
    · rintro ⟨i, hi, rfl, hc⟩
      exact ⟨Nat.le_add_left _ _, hi, hc⟩
  | assertion a =>
    refine follows_of_testBit_ends fun {starts} hstarts j => ?_
    simp only [ends, matches_assertion_iff, Nat.testBit_and, Bool.and_eq_true,
      testBit_assertionMarks, Option.toList_none, List.nil_append]
    constructor
    · rintro ⟨hj, ha⟩
      exact ⟨j, hj, rfl, ha⟩
    · rintro ⟨i, hi, rfl, ha⟩
      exact ⟨hi, ha⟩
  | group numbered r ih =>
    refine follows_of_testBit_ends fun {starts} hstarts j => ?_
    simp only [ends, matches_group_iff]
    exact (ih hr).testBit_iff hstarts j
  | seq r s ihr ihs =>
    have hfirst := ihr hr.1
    refine follows_of_testBit_ends fun {starts} hstarts j => ?_
    simp only [ends, matches_seq_iff]
    rw [(ihs hr.2).testBit_iff (hfirst.within_step hstarts)]
    constructor
    · rintro ⟨l, hl, hlj⟩
      obtain ⟨i, hi, hil⟩ := (hfirst.testBit_iff hstarts l).mp hl
      exact ⟨i, hi, l, hil, hlj⟩
    · rintro ⟨i, hi, l, hil, hlj⟩
      exact ⟨l, (hfirst.testBit_iff hstarts l).mpr ⟨i, hi, hil⟩, hlj⟩
  | alt r s ihr ihs =>
    refine follows_of_testBit_ends fun {starts} hstarts j => ?_
    simp only [ends, matches_alt_iff, Nat.testBit_or, Bool.or_eq_true,
      (ihr hr.1).testBit_iff hstarts, (ihs hr.2).testBit_iff hstarts, and_or_left, exists_or]
  | rep r min max greedy ih => exact follows_rep greedy (ih hr.1) hr.2

/-- An expression is found in a text if and only if it matches some stretch of it. -/
theorem isMatch_iff_finds (hr : r.IsOrdered) (text : List Char) :
    isMatch r text = true ↔ Finds r text := by
  have hends := (follows_ends text hr).testBit_iff (within_allPositions text)
  rw [isMatch, bne_iff_ne, Finds]
  constructor
  · intro hne
    obtain ⟨j, hj⟩ := Nat.exists_testBit_of_ne_zero hne
    obtain ⟨i, -, hij⟩ := (hends j).mp hj
    exact ⟨i, j, hij⟩
  · rintro ⟨i, j, hij⟩ hzero
    have hi := testBit_allPositions (Nat.le_trans hij.le.1 hij.le.2)
    have hj := (hends j).mpr ⟨i, hi, hij⟩
    rw [hzero, Nat.zero_testBit] at hj
    contradiction

end

end UserDirectory.Regex
