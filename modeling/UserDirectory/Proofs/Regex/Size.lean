import UserDirectory.Regex.Size

/-!
# UserDirectory — sizes that are within the limit

States are shared where they do the same. Whether a state is found again hangs on a hash, but to
share can only make an automaton smaller: it has no more states than it would have with a state for
each range of bytes that the set is written in. A sequence takes no more than its parts together.

## Results

* `SharedStates.tree_grows`, `SharedStates.path_grows` — how many states a set takes at most.
* `Plan.tally_seq_joinLiterals`                        — joining literals does not change a count.
* `fits_of_branches`                                   — a sequence whose parts are small enough.
-/

namespace UserDirectory.Regex

open Text

/-- A count has grown to another by so many states, and so much besides, at most. -/
structure Tally.Grows (t u : Tally) (states extra : Nat) : Prop where
  states_le : u.states ≤ t.states + states
  extra_le : u.extra ≤ t.extra + extra

theorem Tally.Grows.refl (t : Tally) : t.Grows t 0 0 := ⟨Nat.le_refl _, Nat.le_refl _⟩

/-- Growth adds up. -/
theorem Tally.Grows.trans {t u v : Tally} {n m n' m' : Nat} (h : t.Grows u n m)
    (h' : u.Grows v n' m') : t.Grows v (n + n') (m + m') where
  states_le := by
    have h1 := h.states_le
    have h2 := h'.states_le
    omega
  extra_le := by
    have h1 := h.extra_le
    have h2 := h'.extra_le
    omega

theorem Tally.Grows.mono {t u : Tally} {n m n' m' : Nat} (h : t.Grows u n m) (hn : n ≤ n')
    (hm : m ≤ m') : t.Grows u n' m' where
  states_le := Nat.le_trans h.states_le (Nat.add_le_add_left hn _)
  extra_le := Nat.le_trans h.extra_le (Nat.add_le_add_left hm _)

/-- How many ranges of bytes there are in products. -/
def byteRangeCount (products : List (List ByteRange)) : Nat := products.flatten.length

theorem byteRangeCount_nil : byteRangeCount [] = 0 := rfl

theorem byteRangeCount_cons (bytes : List ByteRange) (products : List (List ByteRange)) :
    byteRangeCount (bytes :: products) = bytes.length + byteRangeCount products := by
  rw [byteRangeCount, List.flatten_cons, List.length_append, byteRangeCount]

theorem byteRangeCount_append (products products' : List (List ByteRange)) :
    byteRangeCount (products ++ products') = byteRangeCount products + byteRangeCount products' := by
  rw [byteRangeCount, List.flatten_append, List.length_append, byteRangeCount, byteRangeCount]

namespace SharedStates

/-- A state that is found takes nothing, and a new one counts as one. -/
theorem state_grows (m : SharedStates) (key : List Nat) (extra : Nat) :
    m.tally.Grows (m.state key extra).2.tally 1 extra := by
  rw [state]
  split
  · exact ⟨Nat.le_add_right _ _, Nat.le_add_right _ _⟩
  · exact ⟨Nat.le_refl _, Nat.le_refl _⟩

theorem path_grows (m : SharedStates) (target : Nat) (bytes : List ByteRange) :
    m.tally.Grows (m.path target bytes).tally bytes.length branchSize := by
  induction bytes generalizing m target with
  | nil => exact ⟨Nat.le_refl _, Nat.le_refl _⟩
  | cons r bytes ih =>
    have hnew := m.state_grows [target, r.1, r.2] 0
    have hrest := ih (m.state [target, r.1, r.2] 0).2 (m.state [target, r.1, r.2] 0).1
    exact (hnew.trans hrest).mono (by rw [List.length_cons]; omega) (by omega)

theorem foldl_path_grows (target : Nat) (products : List (List ByteRange)) (m : SharedStates) :
    m.tally.Grows (products.foldl (fun m bytes => m.path target bytes) m).tally
      (byteRangeCount products) (branchSize * products.length) := by
  induction products generalizing m with
  | nil => exact .refl _
  | cons bytes products ih =>
    have hfirst := m.path_grows target bytes
    refine (hfirst.trans (ih (m.path target bytes))).mono ?_ ?_
    · exact Nat.le_of_eq (byteRangeCount_cons bytes products).symm
    · rw [List.length_cons, Nat.mul_succ]
      omega

/-- The ranges in the products of all groups. -/
def rangesOf (groups : List (ByteRange × List (List ByteRange))) : Nat :=
  byteRangeCount (groups.flatMap (·.2))

theorem rangesOf_cons (r : ByteRange) (rests : List (List ByteRange))
    (groups : List (ByteRange × List (List ByteRange))) :
    rangesOf ((r, rests) :: groups) = byteRangeCount rests + rangesOf groups := by
  rw [rangesOf, List.flatMap_cons, byteRangeCount_append, rangesOf]

/-- To gather products by their first range counts this range once for all of them. -/
theorem length_byFirst_le (products : List (List ByteRange)) :
    (byFirst products).length + rangesOf (byFirst products) ≤ byteRangeCount products := by
  induction products with
  | nil => exact Nat.le_refl _
  | cons bytes products ih =>
    rw [byteRangeCount_cons]
    -- a product that starts a group counts as a group and as one range of the others
    cases bytes with
    | nil =>
      rw [byFirst, List.length_nil, Nat.zero_add]
      exact ih
    | cons r bytes =>
      rw [byFirst]
      split
      · next hnone =>
        rw [hnone] at ih
        rw [rangesOf_cons, byteRangeCount_cons, byteRangeCount_nil, List.length_cons,
          List.length_cons]
        omega
      · next q rests groups hsome =>
        rw [hsome, rangesOf_cons, List.length_cons] at ih
        split
        · rw [rangesOf_cons, byteRangeCount_cons, List.length_cons, List.length_cons]
          omega
        · rw [rangesOf_cons, rangesOf_cons, byteRangeCount_cons, byteRangeCount_nil,
            List.length_cons, List.length_cons, List.length_cons]
          omega

/-- Groups one after the other, if a tree of the depth is known to grow by no more than this. -/
theorem foldl_tree_grows {target depth : Nat}
    (htree : ∀ products (m : SharedStates), m.tally.Grows (tree target depth products m).2.tally
      (1 + byteRangeCount products) (transitionSize * byteRangeCount products))
    (groups : List (ByteRange × List (List ByteRange))) (key : List Nat) (m : SharedStates) :
    m.tally.Grows
      (groups.foldl (fun (key, m) ((lo, hi), rests) =>
        let (next, m) := tree target depth rests m
        (key ++ [lo, hi, next], m)) (key, m)).2.tally
      (groups.length + rangesOf groups) (transitionSize * rangesOf groups) := by
  induction groups generalizing key m with
  | nil => exact .refl _
  | cons group groups ih =>
    have hrest := ih (key ++ [group.1.1, group.1.2, (tree target depth group.2 m).1])
      (tree target depth group.2 m).2
    refine ((htree group.2 m).trans hrest).mono ?_ ?_
    · rw [rangesOf_cons, List.length_cons]
      omega
    · exact Nat.le_of_eq (by rw [rangesOf_cons, Nat.mul_add])

/-- The induction is on the depth: the groups of a state are made one after the other, each by a
tree of less depth, and then the state itself. -/
theorem tree_grows (target depth : Nat) (products : List (List ByteRange)) (m : SharedStates) :
    m.tally.Grows (tree target depth products m).2.tally (1 + byteRangeCount products)
      (transitionSize * byteRangeCount products) := by
  induction depth generalizing products m with
  | zero => exact ⟨Nat.le_add_right _ _, Nat.le_add_right _ _⟩
  | succ depth ih =>
    have hcount := length_byFirst_le products
    rw [tree]
    split
    · exact ⟨Nat.le_add_right _ _, Nat.le_add_right _ _⟩
    · have hgroups := foldl_tree_grows ih (byFirst products) [] m
      refine (hgroups.trans (state_grows _ _ _)).mono (by omega) ?_
      rw [← Nat.mul_add]
      exact Nat.mul_le_mul_left _ (by omega)

end SharedStates

-- ---------------------------------------------------------------------------
-- What can be counted
-- ---------------------------------------------------------------------------

/-- A count that succeeds where there is room for so many states, and so much besides, and takes no
more than that. -/
def Tally.Takes (count : Tally → Option Tally) (states extra : Nat) : Prop :=
  ∀ t : Tally, stateSize * (t.states + states) + (t.extra + extra) ≤ maxSize →
    ∃ u, count t = some u ∧ t.Grows u states extra

theorem Tally.takes_add (states extra : Nat) : Takes (·.add states extra) states extra :=
  fun _ hroom => ⟨_, if_pos hroom, Nat.le_refl _, Nat.le_refl _⟩

/-- Two counts in a row take what they take together. -/
theorem Tally.Takes.bind {count next : Tally → Option Tally} {n m n' m' : Nat}
    (h : Takes count n m) (h' : Takes next n' m') :
    Takes (fun t => (count t).bind next) (n + n') (m + m') := by
  intro t hroom
  simp only [stateSize] at hroom
  obtain ⟨u, hu, hgrows⟩ := h t (by simp only [stateSize]; omega)
  have h1 := hgrows.states_le
  have h2 := hgrows.extra_le
  obtain ⟨v, hv, hgrows'⟩ := h' u (by simp only [stateSize]; omega)
  refine ⟨v, ?_, hgrows.trans hgrows'⟩
  show (count t).bind next = some v
  rw [hu]
  exact hv

/-- A bound of what a count takes may be raised. -/
theorem Tally.Takes.mono {count : Tally → Option Tally} {n m n' m' : Nat} (h : Takes count n m)
    (hn : n ≤ n') (hm : m ≤ m') : Takes count n' m' := by
  intro t hroom
  simp only [stateSize] at hroom
  obtain ⟨u, hu, hgrows⟩ := h t (by simp only [stateSize]; omega)
  exact ⟨u, hu, hgrows.mono hn hm⟩

/-- The most states that a set takes. -/
def CharSet.mostStates (s : CharSet) : Nat := byteRangeCount s.byteProducts + 2

/-- The most that a set takes besides its states. -/
def CharSet.mostExtra (s : CharSet) : Nat :=
  transitionSize * byteRangeCount s.byteProducts + branchSize * s.byteProducts.length

/-- A set takes no more than states of its own for each range, in either direction. -/
theorem Tally.takes_addSet {s : CharSet} (hwide : s.isAscii = false) (back : Bool) :
    Takes (·.addSet back s) s.mostStates s.mostExtra := by
  intro t hroom
  -- what has grown by no more than there is room for is within the limit
  have hadd : ∀ u : Tally, t.Grows u s.mostStates s.mostExtra → u.add 0 0 = some u := by
    intro u hu
    have h1 := hu.states_le
    have h2 := hu.extra_le
    refine if_pos ?_
    simp only [bytes, stateSize] at hroom ⊢
    omega
  suffices hgrows : ∃ u : Tally, t.addSet back s = u.add 0 0 ∧
      t.Grows u s.mostStates s.mostExtra by
    obtain ⟨u, hu, hgrows⟩ := hgrows
    exact ⟨u, hu.trans (hadd u hgrows), hgrows⟩
  rw [addSet, hwide]
  cases back with
  | true =>
    have hstart : t.Grows ⟨t.states + 2, t.extra⟩ 2 0 := ⟨Nat.le_refl _, Nat.le_refl _⟩
    have hpaths := SharedStates.foldl_path_grows (t.states + 1) s.byteProducts
      { slots := pathSlots, tally := ⟨t.states + 2, t.extra⟩ }
    refine ⟨_, rfl, (hstart.trans hpaths).mono ?_ ?_⟩
    · rw [CharSet.mostStates]
      omega
    · rw [CharSet.mostExtra, Nat.zero_add]
      exact Nat.le_add_left _ _
  | false =>
    have hstart : t.Grows ⟨t.states + 1, t.extra⟩ 1 0 := ⟨Nat.le_refl _, Nat.le_refl _⟩
    have htree := SharedStates.tree_grows t.states 4 s.byteProducts
      { slots := treeSlots, tally := ⟨t.states + 1, t.extra⟩ }
    refine ⟨_, rfl, (hstart.trans htree).mono ?_ ?_⟩
    · rw [CharSet.mostStates]
      omega
    · rw [CharSet.mostExtra, Nat.zero_add]
      exact Nat.le_add_right _ _

-- ---------------------------------------------------------------------------
-- Repetitions
-- ---------------------------------------------------------------------------

section

variable {s : CharSet}

/-- A set that may be repeated any number of times takes one state more, which branches. -/
theorem takes_tally_rep_set (hne : s.ranges.isEmpty = false) (hwide : s.isAscii = false)
    (back greedy : Bool) :
    Tally.Takes (Plan.tally back (.rep (.set s) 0 none greedy)) (1 + s.mostStates)
      (2 * branchSize + s.mostExtra) := by
  have htally : Plan.tally back (.rep (.set s) 0 none greedy) =
      fun t => (t.add 1 (2 * branchSize)).bind (·.addSet back s) := by
    funext t
    simp [Plan.tally, Plan.tallyRep, Plan.least?, hne]
  rw [htally]
  exact (Tally.takes_add _ _).bind (Tally.takes_addSet hwide back)

/-- A group takes a state at each end, unless texts are read backwards. -/
theorem takes_tally_capture {p : Plan} {states extra : Nat} {back : Bool}
    (h : Tally.Takes (Plan.tally back p) states extra) :
    Tally.Takes (Plan.tally back (.capture p)) (states + 2) extra := by
  cases back with
  | true =>
    have htally : Plan.tally true (.capture p) = Plan.tally true p := by
      funext t
      simp [Plan.tally]
    rw [htally]
    exact h.mono (Nat.le_add_right _ _) (Nat.le_refl _)
  | false =>
    have htally : Plan.tally false (.capture p) =
        fun t => ((t.add 1 0).bind (Plan.tally false p)).bind (·.add 1 0) := by
      funext t
      simp [Plan.tally]
    rw [htally]
    exact (((Tally.takes_add 1 0).bind h).bind (Tally.takes_add 1 0)).mono (by omega) (by omega)

/-- A plan is small enough if there is room for it in a group of its own, with what is before it and
behind it. -/
theorem Plan.fits_of_takes {p : Plan} {states extra : Nat} {back : Bool}
    (h : Tally.Takes (tally back p) states extra)
    (hroom : stateSize * (states + 6) + (extra + 2 * branchSize + transitionSize) ≤ maxSize) :
    p.fits back = true := by
  have hstart : ∀ bound : Bool, Tally.Takes
      (fun t => if bound then t.add 1 0 else t.add 3 (2 * branchSize + transitionSize)) 3
      (2 * branchSize + transitionSize) := by
    intro bound
    cases bound with
    | true => exact (Tally.takes_add 1 0).mono (by omega) (Nat.zero_le _)
    | false => exact Tally.takes_add _ _
  have hall := ((hstart (p.isBound (if back then .textEnd else .textStart) back)).bind
    (takes_tally_capture h)).bind (Tally.takes_add 1 0)
  obtain ⟨u, hu, -⟩ := hall {} (by simp only [stateSize] at *; omega)
  exact Option.isSome_iff_exists.mpr ⟨u, hu⟩

end

-- ---------------------------------------------------------------------------
-- Sequences
-- ---------------------------------------------------------------------------

/-- To count in two steps is to count at once. -/
theorem Tally.add_add (t : Tally) (n m n' m' : Nat) :
    (t.add n m).bind (·.add n' m') = t.add (n + n') (m + m') := by
  by_cases hroom : stateSize * (t.states + (n + n')) + (t.extra + (m + m')) ≤ maxSize
  · have hfirst : t.add n m = some ⟨t.states + n, t.extra + m⟩ := by
      refine if_pos ?_
      simp only [bytes, stateSize] at hroom ⊢
      omega
    rw [hfirst, Option.bind_some, add, add, Nat.add_assoc, Nat.add_assoc]
  · have hboth : t.add (n + n') (m + m') = none := if_neg hroom
    rw [hboth, add]
    split
    · rw [Option.bind_some, add, Nat.add_assoc, Nat.add_assoc]
      exact if_neg hroom
    · rfl

namespace Plan

variable {ps : List Plan} {states extra : Nat} {back : Bool}

/-- A literal counts as its two halves do. -/
theorem tally_literal_append (a b : List Char) (t : Tally) :
    tally back (.literal (a ++ b)) t =
      (tally back (.literal a) t).bind (tally back (.literal b)) := by
  have hadd := t.add_add (byteLength a) 0 (byteLength b) 0
  rw [← byteLength_append] at hadd
  exact hadd.symm

/-- The halves of a literal may be counted the other way round. -/
theorem tally_literal_append' (a b : List Char) (t : Tally) :
    tally back (.literal (a ++ b)) t =
      (tally back (.literal b) t).bind (tally back (.literal a)) := by
  rw [← tally_literal_append, tally, tally, byteLength_append, byteLength_append, Nat.add_comm]

/-- The first plan of a sequence is counted first, or last for reading backwards. -/
theorem tally_seq_cons (p : Plan) (ps : List Plan) (t : Tally) :
    tally back (.seq (p :: ps)) t =
      if back then (tally back (.seq ps) t).bind (tally back p)
      else (tally back p t).bind (tally back (.seq ps)) := by
  cases back with
  | true => rfl
  | false => rfl

/-- A sequence of one plan counts as that plan. -/
theorem tally_seq_singleton (p : Plan) : tally back (.seq [p]) = tally back p := by
  funext t
  rw [tally_seq_cons]
  cases back with
  | true => rfl
  | false => exact Option.bind_fun_some _

/-- Joining literals does not change what is counted. -/
theorem tally_seq_joinLiterals (ps : List Plan) :
    tally back (.seq (joinLiterals ps)) = tally back (.seq ps) := by
  -- on the plans: a literal in front of one with which the others start is joined to it
  induction ps with
  | nil => rfl
  | cons p ps ih =>
    funext t
    rw [tally_seq_cons p ps, ← ih]
    cases p with
    | literal a =>
      rw [joinLiterals]
      split
      · next b qs hjoined =>
        rw [hjoined, tally_seq_cons]
        cases back with
        | true =>
          rw [if_pos rfl, if_pos rfl, tally_seq_cons, if_pos rfl, Option.bind_assoc]
          exact congrArg _ (funext (tally_literal_append' a b))
        | false =>
          rw [if_neg Bool.false_ne_true, if_neg Bool.false_ne_true, tally_literal_append,
            Option.bind_assoc]
          rfl
      · rw [tally_seq_cons]
    | empty | set | assertion | rep | capture | seq | alt => exact tally_seq_cons _ _ t

/-- Plans one after the other take no more than all of them together. -/
theorem takes_tally_seq (h : ∀ p ∈ ps, Tally.Takes (tally back p) states extra) :
    Tally.Takes (tally back (.seq ps)) (ps.length * states) (ps.length * extra) := by
  induction ps with
  | nil =>
    have hnone : tally back (.seq []) = some := by
      cases back with
      | true => rfl
      | false => rfl
    rw [hnone]
    exact fun t _ => ⟨t, rfl, (Tally.Grows.refl t).mono (Nat.zero_le _) (Nat.zero_le _)⟩
  | cons p ps ih =>
    have hfirst := h p List.mem_cons_self
    have hrest := ih fun q hq => h q (List.mem_cons_of_mem _ hq)
    rw [funext (tally_seq_cons p ps), List.length_cons, Nat.succ_mul, Nat.succ_mul]
    -- backwards the members are counted from the last one
    cases back with
    | true => exact hrest.bind hfirst
    | false => exact (hfirst.bind hrest).mono (by omega) (by omega)

/-- A sequence takes no more than its parts; the empty one takes a state. -/
theorem takes_tally_seqOf (hparts : ps.flatMap parts = ps)
    (h : ∀ p ∈ ps, Tally.Takes (tally back p) states extra) :
    Tally.Takes (tally back (seqOf ps)) (ps.length * states + 1) (ps.length * extra) := by
  have hseq := (takes_tally_seq h).mono (Nat.le_succ _) (Nat.le_refl _)
  rw [← tally_seq_joinLiterals] at hseq
  rw [seqOf, hparts]
  split
  · exact (Tally.takes_add 1 0).mono (Nat.le_add_left _ _) (Nat.zero_le _)
  · next p hone =>
    rw [hone, tally_seq_singleton] at hseq
    exact hseq
  · exact hseq

end Plan

/-- A sequence is small enough if there is room for all of its parts, whatever is shared. -/
theorem fits_of_branches {r : Regex} {ps : List Plan} {states extra : Nat}
    (hbranches : r.branches = [ps]) (hparts : ps.flatMap Plan.parts = ps)
    (h : ∀ p ∈ ps, ∀ back, Tally.Takes (Plan.tally back p) states extra)
    (hroom : stateSize * (ps.length * states + 7) +
      (ps.length * extra + 2 * branchSize + transitionSize) ≤ maxSize) : r.fits = true := by
  -- the same bound for both directions
  have hfits : ∀ back, Plan.fits back (Plan.seqOf ps) = true := by
    intro back
    exact Plan.fits_of_takes (Plan.takes_tally_seqOf hparts fun p hp => h p hp back) hroom
  rw [fits, plan, hbranches, planOf, hfits, hfits, Bool.and_self, Bool.or_true]

end UserDirectory.Regex
