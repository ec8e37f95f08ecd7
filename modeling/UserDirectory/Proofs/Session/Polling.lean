import Mathlib.Data.List.Induction
import Mathlib.Data.List.Infix
import Mathlib.Logic.Function.Iterate
import UserDirectory.Proofs.Session.Watching

/-!
# UserDirectory — the polls of a tick

A tick lets any number of seconds pass at once. The watch may wake up any number of times meanwhile
and polls each time (`Session.polls`), and it does so at the seconds at which it would if they passed
one by one (`Session.second`). The file does not change within a tick, so the first poll sees what
there is to be seen, and the others find the stamp that they know.

## Results

* `Session.tick_add`, `Session.tick_eq_iterate` — ticks may be taken apart, down to single seconds.
* `Session.mem_times_polls_iff`                 — when the polls of a tick are made.
* `Session.attempts_polls`                      — what they set out to load.
* `Session.directory_advance_eq_foldl`          — what they do to the directory, one after the other.
* `Session.KnowsFile.run`                       — a file is not loaded again while it has its stamp.
* `Session.run_fresh_polls`                     — all this, in every state that a run reaches.
-/

namespace UserDirectory

/-- A poll: the second at which it is made, and what it sets out to load, if it finds a new stamp. -/
structure Poll where
  time : Nat
  attempt? : Option (Except FileError String)

/-- What the poll sets out to load, with the second at which it does. -/
def Poll.timed? (p : Poll) : Option Attempt := p.attempt?.map (⟨p.time, ·⟩)

namespace Session

/-- What a poll of the watch sets out to load. -/
def pollAttempt? (s : Session) (w : Watch) : Option (Except FileError String) :=
  if s.file.stamp? = w.lastSeen then none else some s.file.read

/-- The polls that are made until the given second. -/
def pollsUntil (s : Session) (later : Nat) : List Poll :=
  match _ : s.watch? with
  | none => []
  | some w =>
    if w.wakesAt ≤ later then ⟨w.wakesAt, s.pollAttempt? w⟩ :: (s.wake w).pollsUntil later else []
termination_by s.remaining later
decreasing_by exact remaining_wake_lt ‹_› ‹_›

/-- The polls that are made in a tick. -/
def polls (s : Session) (seconds : Nat) : List Poll := s.pollsUntil (s.now + seconds)

/-- What the polls of a tick set out to load. -/
def attempts (s : Session) (seconds : Nat) : List (Except FileError String) :=
  (s.polls seconds).filterMap (·.attempt?)

/-- Let one second pass. A watch that wakes up then polls. -/
def second (s : Session) : Session :=
  let s' := { s with now := s.now + 1 }
  match s.watch? with
  | none => s'
  | some w => if w.wakesAt = s.now + 1 then s'.poll w else s'

-- ---------------------------------------------------------------------------
-- Seconds
-- ---------------------------------------------------------------------------

/-- What happens until a second does not depend on how much of the time has passed already. -/
theorem advance_now (s : Session) (now later : Nat) :
    ({ s with now } : Session).advance later = s.advance later := by
  rcases s.sleepsUntil_or_due later with hsleeps | ⟨w, hwatch, hdue⟩
  · rw [advance_of_sleepsUntil hsleeps, advance_of_sleepsUntil (s := { s with now }) hsleeps]
  · rw [advance_of_due hwatch hdue, advance_of_due (s := { s with now }) hwatch hdue]
    rfl

/-- To let time pass until a second on the way makes no difference. -/
theorem advance_advance (s : Session) {later latest : Nat} (h : later ≤ latest) :
    (s.advance later).advance latest = s.advance latest := by
  induction s using advance_induction later with
  | sleeps s hsleeps => rw [advance_of_sleepsUntil hsleeps, advance_now]
  | wakes s w hwatch hdue ih =>
    rw [advance_of_due hwatch hdue, ih, ← advance_of_due hwatch (Nat.le_trans hdue h)]

theorem now_tick (s : Session) (seconds : Nat) : (s.tick seconds).now = s.now + seconds := by
  rw [tick_eq]

/-- Two ticks come to the same as one. -/
theorem tick_add (s : Session) (a b : Nat) : (s.tick a).tick b = s.tick (a + b) := by
  rw [tick, now_tick, tick, advance_advance s (Nat.le_add_right _ _), tick, Nat.add_assoc]

theorem OnTime.tick_zero {s : Session} {since : Nat} (h : s.OnTime since) : s.tick 0 = s :=
  advance_of_sleepsUntil fun w hwatch => (h w hwatch).now_lt

theorem second_of_due {s : Session} {w : Watch} (hwatch : s.watch? = some w)
    (hdue : w.wakesAt = s.now + 1) : s.second = s.wake w := by
  unfold second
  simp only [hwatch, wake, hdue, if_true]

/-- In a second in which nothing wakes up, nothing but time passes. -/
theorem second_of_sleepsUntil {s : Session} (h : s.SleepsUntil (s.now + 1)) :
    s.second = { s with now := s.now + 1 } := by
  unfold second
  split
  · rfl
  · next w hwatch => exact if_neg (Nat.ne_of_gt (h w hwatch))

/-- After a poll the watch does not wake up again before some time has passed. -/
theorem sleepsUntil_wake (s : Session) (w : Watch) : (s.wake w).SleepsUntil w.wakesAt :=
  sleepsUntil_of_lt (watch?_wake s w) (Nat.lt_add_of_pos_right s.period_pos)

/-- A tick of one second is one second: a watch that wakes up on time can do so only at its end. -/
theorem OnTime.tick_one {s : Session} {since : Nat} (h : s.OnTime since) : s.tick 1 = s.second := by
  rw [tick]
  rcases s.sleepsUntil_or_due (s.now + 1) with hsleeps | ⟨w, hwatch, hdue⟩
  · rw [advance_of_sleepsUntil hsleeps, second_of_sleepsUntil hsleeps]
  · have hnow : w.wakesAt = s.now + 1 := Nat.le_antisymm hdue (h w hwatch).now_lt
    rw [second_of_due hwatch hnow, advance_of_due hwatch hdue, ← hnow,
      advance_of_sleepsUntil (sleepsUntil_wake s w), wake_eq]

/-- A tick is as many seconds, one by one. -/
theorem OnTime.tick_eq_iterate {s : Session} {since : Nat} (h : s.OnTime since) (seconds : Nat) :
    s.tick seconds = second^[seconds] s := by
  induction seconds generalizing s with
  | zero => exact h.tick_zero
  | succ seconds ih =>
    have hsecond : s.second.OnTime since := by
      rw [← h.tick_one]
      exact h.advance (Nat.le_add_right _ _)
    rw [Function.iterate_succ_apply, ← ih hsecond, ← h.tick_one, tick_add, Nat.add_comm]

-- ---------------------------------------------------------------------------
-- When polls are made
-- ---------------------------------------------------------------------------

/-- As long as nothing wakes up, no poll is made. -/
theorem pollsUntil_of_sleepsUntil {s : Session} {later : Nat} (h : s.SleepsUntil later) :
    s.pollsUntil later = [] := by
  rw [pollsUntil]
  split
  · rfl
  · next w hwatch => exact if_neg (Nat.not_le_of_lt (h w hwatch))

/-- A watch that is due makes a poll, and the others are made from there. -/
theorem pollsUntil_of_due {s : Session} {w : Watch} {later : Nat} (hwatch : s.watch? = some w)
    (hdue : w.wakesAt ≤ later) :
    s.pollsUntil later = ⟨w.wakesAt, s.pollAttempt? w⟩ :: (s.wake w).pollsUntil later := by
  rw [pollsUntil]
  split
  · next hnone => rw [hwatch] at hnone; contradiction
  · next w' hwatch' =>
    cases hwatch.symm.trans hwatch'
    exact if_pos hdue

/-- A poll is made in a tick if the watch wakes up before it is over. -/
theorem polls_ne_nil_iff {s : Session} {w : Watch} (hwatch : s.watch? = some w) {seconds : Nat} :
    s.polls seconds ≠ [] ↔ w.wakesAt ≤ s.now + seconds := by
  by_cases hdue : w.wakesAt ≤ s.now + seconds
  · simp [polls, pollsUntil_of_due hwatch hdue, hdue]
  · simp [polls, pollsUntil_of_sleepsUntil (sleepsUntil_of_lt hwatch (Nat.lt_of_not_le hdue)), hdue]

/-- Polls are made at all seconds to come that are some periods after the start of the watch. -/
theorem OnTime.mem_times_iff {s : Session} {since later time : Nat} {w : Watch}
    (h : s.OnTime since) (hwatch : s.watch? = some w) :
    time ∈ (s.pollsUntil later).map (·.time) ↔
      (∃ k, 1 ≤ k ∧ time = since + k * s.period) ∧ s.now < time ∧ time ≤ later := by
  induction s using advance_induction later generalizing w with
  -- a poll that is due would have woken the watch up
  | sleeps s hsleeps =>
    rw [pollsUntil_of_sleepsUntil hsleeps]
    refine iff_of_false List.not_mem_nil ?_
    rintro ⟨⟨k, hk, rfl⟩, hnow, hlater⟩
    have hdue : w.wakesAt ≤ later := (h w hwatch).wakesAt_le_iff.mpr ⟨k, hk, hnow, hlater⟩
    exact Nat.not_lt_of_le hdue (hsleeps w hwatch)
  | wakes s w' hwatch' hdue ih =>
    obtain rfl : w = w' := Option.some.inj (hwatch.symm.trans hwatch')
    have hontime := h w hwatch
    rw [pollsUntil_of_due hwatch hdue, List.map_cons, List.mem_cons,
      ih (h.wake hwatch) (watch?_wake s w), period_wake, now_wake]
    constructor
    · rintro (rfl | ⟨hperiods, hnow, hlater⟩)
      · exact ⟨hontime.exists_eq, hontime.now_lt, hdue⟩
      · exact ⟨hperiods, Nat.lt_trans hontime.now_lt hnow, hlater⟩
    · rintro ⟨⟨k, hk, rfl⟩, hnow, hlater⟩
      -- the watch wakes up then, or before
      have hwakes : w.wakesAt ≤ since + k * s.period :=
        hontime.wakesAt_le_iff.mpr ⟨k, hk, hnow, Nat.le_refl _⟩
      rcases Nat.eq_or_lt_of_le hwakes with heq | hlt
      · exact .inl heq.symm
      · exact .inr ⟨⟨k, hk, rfl⟩, hlt, hlater⟩

/-- Polls are made one after the other. -/
theorem OnTime.times_increase {s : Session} {since : Nat} (h : s.OnTime since) (later : Nat) :
    ((s.pollsUntil later).map (·.time)).Pairwise (· < ·) := by
  induction s using advance_induction later with
  | sleeps s hsleeps =>
    rw [pollsUntil_of_sleepsUntil hsleeps]
    exact List.Pairwise.nil
  | wakes s w hwatch hdue ih =>
    rw [pollsUntil_of_due hwatch hdue, List.map_cons, List.pairwise_cons]
    refine ⟨fun time htime => ?_, ih (h.wake hwatch)⟩
    rw [(h.wake hwatch).mem_times_iff (watch?_wake s w), now_wake] at htime
    exact htime.2.1

-- ---------------------------------------------------------------------------
-- What polls load
-- ---------------------------------------------------------------------------

/-- No poll sets out to load a file whose stamp is known. -/
theorem KnowsFile.attempts_pollsUntil {s : Session} (h : s.KnowsFile) (later : Nat) :
    (s.pollsUntil later).filterMap (·.attempt?) = [] := by
  induction s using advance_induction later with
  | sleeps s hsleeps =>
    rw [pollsUntil_of_sleepsUntil hsleeps]
    rfl
  | wakes s w hwatch hdue ih =>
    rw [pollsUntil_of_due hwatch hdue, pollAttempt?, if_pos (h w hwatch),
      List.filterMap_cons_none rfl, ih (knowsFile_wake s w)]

/-- The first poll sets out to load the file if the watch has seen another stamp, and no other poll
does. -/
theorem attempts_eq {s : Session} {w : Watch} (hwatch : s.watch? = some w) (seconds : Nat) :
    s.attempts seconds =
      if w.wakesAt ≤ s.now + seconds then (s.pollAttempt? w).toList else [] := by
  rw [attempts, polls]
  by_cases hdue : w.wakesAt ≤ s.now + seconds
  · rw [if_pos hdue, pollsUntil_of_due hwatch hdue, List.filterMap_cons,
      (knowsFile_wake s w).attempts_pollsUntil]
    cases s.pollAttempt? w <;> rfl
  · rw [if_neg hdue, pollsUntil_of_sleepsUntil (sleepsUntil_of_lt hwatch (Nat.lt_of_not_le hdue))]
    rfl

/-- What polls do to the directory is what they set out to load, one after the other. -/
theorem directory_advance_eq_foldl (s : Session) (later : Nat) :
    (s.advance later).directory =
      ((s.pollsUntil later).filterMap Poll.timed?).foldl (fun d a => d.attempt s.salt a)
        s.directory := by
  induction s using advance_induction later with
  | sleeps s hsleeps =>
    rw [advance_of_sleepsUntil hsleeps, pollsUntil_of_sleepsUntil hsleeps]
    rfl
  | wakes s w hwatch hdue ih =>
    rw [advance_of_due hwatch hdue, ih, pollsUntil_of_due hwatch hdue, salt_wake, directory_wake]
    -- a poll that finds the stamp it knows sets out to load nothing
    by_cases hseen : s.file.stamp? = w.lastSeen
    · have hnone : Poll.timed? ⟨w.wakesAt, s.pollAttempt? w⟩ = none := by
        rw [Poll.timed?, pollAttempt?, if_pos hseen, Option.map_none]
      rw [if_pos hseen, List.filterMap_cons_none hnone]
    · have hsome : Poll.timed? ⟨w.wakesAt, s.pollAttempt? w⟩ = some ⟨w.wakesAt, s.file.read⟩ := by
        rw [Poll.timed?, pollAttempt?, if_neg hseen, Option.map_some]
      rw [if_neg hseen, List.filterMap_cons_some hsome, List.foldl_cons]

/-- A tick sets out to load what its polls do, at the second of the first one. -/
theorem toList_attempt?_tick {s : Session} {w : Watch} (hwatch : s.watch? = some w)
    (seconds : Nat) :
    (s.attempt? (.tick seconds)).toList = (s.attempts seconds).map (⟨w.wakesAt, ·⟩) := by
  rw [attempts_eq hwatch, attempt?, pollAttempt?]
  simp only [hwatch]
  by_cases hdue : w.wakesAt ≤ s.now + seconds
  · by_cases hseen : s.file.stamp? = w.lastSeen
    · simp [hdue, hseen]
    · simp [hdue, hseen]
  · simp [hdue]

/-- As long as the file keeps its stamp, it stays known: a watch takes the stamp when it starts and
with each poll. -/
theorem KnowsFile.step {s : Session} (h : s.KnowsFile) {t : Step}
    (hstamp : (s.step t).1.file.stamp? = s.file.stamp?) : (s.step t).1.KnowsFile := by
  cases t with
  | tick seconds => exact h.advance _
  -- a watch that starts takes the stamp of the file, whatever has been seen before
  | watch =>
    intro w hw
    obtain ⟨-, hw⟩ := Option.ite_none_right_eq_some.mp hw
    cases hw
    rfl
  | load source =>
    rw [step_load]
    exact h
  | reload =>
    rw [step_reload]
    exact h
  | _ =>
    intro w hw
    rw [hstamp]
    exact h w hw

/-- A file is not loaded again by a watch that has seen its stamp, until it has another one. -/
theorem KnowsFile.run {s : Session} (h : s.KnowsFile) {ts : List Step}
    (hstamp : ∀ us, us <+: ts → (s.run us).1.file.stamp? = s.file.stamp?) :
    (s.run ts).1.KnowsFile := by
  induction ts generalizing s with
  | nil => exact h
  | cons t ts ih =>
    have hfirst : (s.step t).1.file.stamp? = s.file.stamp? :=
      hstamp [t] (List.cons_prefix_cons.mpr ⟨rfl, List.nil_prefix⟩)
    refine ih (h.step hfirst) fun us hus => Eq.trans ?_ hfirst.symm
    exact hstamp (t :: us) (List.cons_prefix_cons.mpr ⟨rfl, hus⟩)

/-- When a poll has been made in a tick, the stamp of the file is known. -/
theorem knowsFile_tick {s : Session} {w : Watch} (hwatch : s.watch? = some w) {seconds : Nat}
    (hpolls : s.polls seconds ≠ []) : (s.tick seconds).KnowsFile := by
  rw [tick, advance_of_due hwatch ((polls_ne_nil_iff hwatch).mp hpolls)]
  exact (knowsFile_wake s w).advance _

-- ---------------------------------------------------------------------------
-- The watch that is running
-- ---------------------------------------------------------------------------

/-- Only `watch` starts a watch, and none stops. -/
theorem isSome_watch?_step {s : Session} {t : Step} (h : t ≠ .watch) :
    (s.step t).1.watch?.isSome = s.watch?.isSome := by
  cases t with
  | watch => exact absurd rfl h
  | load source => rw [step_load, loadFrom]
  | reload => rw [step_reload, loadFrom]
  | tick seconds => exact isSome_watch?_advance s _
  | _ => rfl

theorem run_concat (s : Session) (ts : List Step) (t : Step) :
    (s.run (ts ++ [t])).1 = ((s.run ts).1.step t).1 := run_append s ts [t]

theorem watch?_step_watch (s : Session) :
    (s.step .watch).1.watch? =
      if s.directory.config.reloading.enabled then some s.asleep else none := rfl

section

variable (config : Config) (salt : Password.Salt) (ts : List Step)

/-- A watch is running if one has been started and reloading is enabled. -/
theorem watch?_run_fresh_eq_none_iff :
    ((fresh config salt).run ts).1.watch? = none ↔
      config.reloading.enabled = false ∨ ∀ t ∈ ts, t ≠ .watch := by
  -- on the last step: only `watch` makes a difference to whether one is running
  induction ts using List.reverseRecOn with
  | nil => simp [run, fresh]
  | append_singleton ts t ih =>
    rw [run_concat]
    by_cases ht : t = .watch
    · subst ht
      rw [watch?_step_watch, config_run]
      cases henabled : config.reloading.enabled <;> simp [fresh, henabled]
    · rw [← Option.isNone_iff_eq_none, ← Option.not_isSome, isSome_watch?_step ht,
        Option.not_isSome, Option.isNone_iff_eq_none, ih, List.forall_mem_append,
        List.forall_mem_singleton, and_iff_left ht]

/-- The watch that is running was started by the last step that starts one. -/
theorem exists_start_of_watch (h : ((fresh config salt).run ts).1.watch?.isSome = true) :
    ∃ before after, ts = before ++ .watch :: after ∧ ∀ t ∈ after, t ≠ .watch := by
  induction ts using List.reverseRecOn with
  | nil => contradiction
  | append_singleton ts t ih =>
    by_cases ht : t = .watch
    · exact ⟨ts, [], by rw [ht], fun _ ht' => absurd ht' List.not_mem_nil⟩
    · rw [run_concat, isSome_watch?_step ht] at h
      obtain ⟨before, after, rfl, hafter⟩ := ih h
      refine ⟨before, after ++ [t], by rw [List.append_assoc, List.cons_append], ?_⟩
      rw [List.forall_mem_append, List.forall_mem_singleton]
      exact ⟨hafter, ht⟩

end

-- ---------------------------------------------------------------------------
-- Runs
-- ---------------------------------------------------------------------------

/-- What a tick comes to when a watch is running that was started at the second `since`. -/
structure TickPolls (s : Session) (since : Nat) (w : Watch) (seconds : Nat) : Prop where
  /-- It is as good as to let the seconds pass one by one and to make each poll when it is due. -/
  tick_eq : (s.step (.tick seconds)).1 = second^[seconds] s
  /-- What becomes of the directory is what its polls set out to load, one after the other. -/
  directory_eq : (s.step (.tick seconds)).1.directory =
    ((s.polls seconds).filterMap Poll.timed?).foldl (fun d a => d.attempt s.salt a) s.directory
  /-- Polls are due when some periods have passed since the start of the watch. -/
  mem_times_iff : ∀ time, time ∈ (s.polls seconds).map (·.time) ↔
    (∃ k, 1 ≤ k ∧ time = since + k * max s.directory.config.reloading.interval 1) ∧
      s.now < time ∧ time ≤ s.now + seconds
  /-- They are made one after the other. -/
  times_increase : ((s.polls seconds).map (·.time)).Pairwise (· < ·)
  /-- The file is loaded once at most. -/
  attempts_eq : s.attempts seconds = [] ∨ s.attempts seconds = [s.file.read]
  /-- It is loaded if a poll is due and finds another stamp than the watch saw last. -/
  attempts_ne_nil_iff :
    s.attempts seconds ≠ [] ↔ s.polls seconds ≠ [] ∧ s.file.stamp? ≠ w.lastSeen
  /-- If that succeeds, its entries are published at the second of the first poll. -/
  directory_of_ok : ∀ source ∈ s.attempts seconds, ∀ entries,
    Users.loadRead s.salt source = .ok entries →
      (s.step (.tick seconds)).1.directory = s.directory.publish w.wakesAt entries
  generation_iff : (s.step (.tick seconds)).1.directory.snapshot.generation =
      s.directory.snapshot.generation + 1 ↔
    ∃ source ∈ s.attempts seconds, ∃ entries, Users.loadRead s.salt source = .ok entries
  /-- Otherwise the directory stays as it is. -/
  directory_of_error :
    (∀ source ∈ s.attempts seconds, ∃ e, Users.loadRead s.salt source = .error e) →
      (s.step (.tick seconds)).1.directory = s.directory
  /-- Whether it succeeds or not, the file is not loaded again by a watch before its stamp
  changes. -/
  attempts_later : s.polls seconds ≠ [] → ∀ ts, (∀ us, us <+: ts →
      ((s.step (.tick seconds)).1.run us).1.file.stamp? = s.file.stamp?) →
    ∀ more, ((s.step (.tick seconds)).1.run ts).1.attempts more = []

/-- A tick sets out to load the file once at most. -/
theorem attempts_eq_nil_or {s : Session} {w : Watch} (hwatch : s.watch? = some w)
    (seconds : Nat) : s.attempts seconds = [] ∨ s.attempts seconds = [s.file.read] := by
  rw [attempts_eq hwatch, pollAttempt?]
  split
  · split
    · exact .inl rfl
    · exact .inr rfl
  · exact .inl rfl

/-- A tick sets out to load the file if a poll is due and finds another stamp than the watch saw
last. -/
theorem attempts_ne_nil_iff {s : Session} {w : Watch} (hwatch : s.watch? = some w)
    {seconds : Nat} :
    s.attempts seconds ≠ [] ↔ s.polls seconds ≠ [] ∧ s.file.stamp? ≠ w.lastSeen := by
  rw [attempts_eq hwatch, polls_ne_nil_iff hwatch, pollAttempt?]
  by_cases hdue : w.wakesAt ≤ s.now + seconds
  · by_cases hseen : s.file.stamp? = w.lastSeen
    · simp [hdue, hseen]
    · simp [hdue, hseen]
  · simp [hdue]

/-- A tick whose poll loads a users document publishes it at the second of the poll. -/
theorem directory_tick_of_ok {s : Session} {w : Watch} (hwatch : s.watch? = some w) {seconds : Nat}
    {source : Except FileError String} (hsource : source ∈ s.attempts seconds)
    {entries : List Entry} (hload : Users.loadRead s.salt source = .ok entries) :
    (s.step (.tick seconds)).1.directory = s.directory.publish w.wakesAt entries := by
  have hattempt : ⟨w.wakesAt, source⟩ ∈ (s.attempt? (.tick seconds)).toList := by
    rw [toList_attempt?_tick hwatch]
    exact List.mem_map_of_mem hsource
  rw [step_directory, Option.mem_toList.mp hattempt]
  exact Directory.attempt_of_ok _ (a := ⟨w.wakesAt, source⟩) hload

/-- A tick that loads nothing, or fails to, leaves the directory alone. -/
theorem directory_tick_of_error {s : Session} {w : Watch} (hwatch : s.watch? = some w)
    {seconds : Nat}
    (h : ∀ source ∈ s.attempts seconds, ∃ e, Users.loadRead s.salt source = .error e) :
    (s.step (.tick seconds)).1.directory = s.directory := by
  rw [step_directory]
  cases hattempt : s.attempt? (.tick seconds) with
  | none => rfl
  | some a =>
    have hmem : a ∈ (s.attempts seconds).map (⟨w.wakesAt, ·⟩) := by
      rw [← toList_attempt?_tick hwatch, hattempt]
      exact List.mem_singleton_self a
    obtain ⟨source, hsource, rfl⟩ := List.mem_map.mp hmem
    obtain ⟨e, he⟩ := h source hsource
    exact Directory.attempt_of_error _ (a := ⟨w.wakesAt, source⟩) he

/-- While a watch is running that wakes up on time, every tick comes to its polls. -/
theorem OnTime.tickPolls {s : Session} {since : Nat} {w : Watch} (h : s.OnTime since)
    (hwatch : s.watch? = some w) (seconds : Nat) : s.TickPolls since w seconds where
  tick_eq := h.tick_eq_iterate seconds
  directory_eq := directory_advance_eq_foldl s _
  mem_times_iff _ := h.mem_times_iff hwatch
  times_increase := h.times_increase _
  attempts_eq := attempts_eq_nil_or hwatch seconds
  attempts_ne_nil_iff := attempts_ne_nil_iff hwatch
  directory_of_ok _ hsource _ := directory_tick_of_ok hwatch hsource
  generation_iff := by
    constructor
    · intro hgeneration
      -- without a load that succeeds the directory stays as it is, and so does its number
      by_contra hnone
      rw [directory_tick_of_error hwatch] at hgeneration
      · omega
      · intro source hsource
        cases hload : Users.loadRead s.salt source with
        | error e => exact ⟨e, rfl⟩
        | ok entries => exact absurd ⟨source, hsource, entries, hload⟩ hnone
    · rintro ⟨source, hsource, entries, hload⟩
      rw [directory_tick_of_ok hwatch hsource hload]
      rfl
  directory_of_error := directory_tick_of_error hwatch
  attempts_later hpolls ts hstamp more := by
    have hfile : (s.step (.tick seconds)).1.file = s.file := file_step s (.tick seconds)
    refine KnowsFile.attempts_pollsUntil ((knowsFile_tick hwatch hpolls).run fun us hus => ?_) _
    exact (hstamp us hus).trans (congrArg UsersFile.stamp? hfile).symm

/-- In every state that a run reaches, two ticks come to the same as one. As long as no watch has been
started, or if reloading is disabled, no watch is running, and a tick changes nothing but the time.
Otherwise the watch that was started last is running. It polls whenever one more period has passed
since then; of the polls in a tick one at most loads the file, if it has another stamp than the watch
saw last. -/
theorem run_fresh_polls (config : Config) (salt : Password.Salt) (ts : List Step) :
    let s := ((fresh config salt).run ts).1
    (∀ a b, ((s.step (.tick a)).1.step (.tick b)).1 = (s.step (.tick (a + b))).1) ∧
    (s.watch? = none ↔ config.reloading.enabled = false ∨ ∀ t ∈ ts, t ≠ .watch) ∧
    (s.watch? = none → ∀ seconds, (s.step (.tick seconds)).1 = { s with now := s.now + seconds }) ∧
    ∀ w, s.watch? = some w → s.directory.config = config ∧
      (∃ before after, ts = before ++ .watch :: after ∧ ∀ t ∈ after, t ≠ .watch) ∧
      ∀ before after, ts = before ++ .watch :: after → (∀ t ∈ after, t ≠ .watch) →
        ∀ seconds, s.TickPolls ((fresh config salt).run before).1.now w seconds := by
  intro s
  refine ⟨tick_add s, watch?_run_fresh_eq_none_iff config salt ts, ?_, ?_⟩
  · intro hwatch seconds
    exact advance_of_sleepsUntil fun w hw => absurd (hwatch.symm.trans hw) nofun
  · intro w hwatch
    refine ⟨config_run _ ts,
      exists_start_of_watch config salt ts (Option.isSome_iff_exists.mpr ⟨w, hwatch⟩), ?_⟩
    rintro before after hts hafter seconds
    -- the last start of a watch is the one that counts
    have hontime : s.OnTime ((fresh config salt).run before).1.now := by
      show ((fresh config salt).run ts).1.OnTime _
      rw [hts]
      exact onTime_run_fresh config salt before hafter
    exact hontime.tickPolls hwatch seconds

/-- With an interval of zero a watch polls each second. The first poll finds a file that is no users
document, and none of the others looks into it. -/
theorem run_fresh_polls_broken :
    let config : Config := ⟨"o=a", "users.yaml", { interval := 0 }⟩
    let salt : Password.Salt := ⟨[1, 2, 3, 4], rfl⟩
    let s := ((fresh config salt).run [.tick 2, .watch, .tick 3, .write "users: [".toUTF8 1]).1
    let s' := (s.step (.tick 4)).1
    7 ∈ (s.polls 4).map (·.time) ∧ s.attempts 4 = [s.file.read] ∧ s'.directory = s.directory ∧
      (s'.run [.tick 1, .query "(dn=*)"]).1.attempts 5 = [] ∧
      ((s.step (.tick 1)).1.step (.tick 3)).1 = s' := by
  intro config salt s s'
  obtain ⟨hadd, -, -, hrunning⟩ := run_fresh_polls config salt
    [.tick 2, .watch, .tick 3, .write "users: [".toUTF8 1]
  have hwatch : s.watch? = some ⟨6, none⟩ := by decide +kernel
  obtain ⟨-, -, hstarted⟩ := hrunning ⟨6, none⟩ hwatch
  have htick := hstarted [.tick 2] [.tick 3, .write "users: [".toUTF8 1] rfl (by simp)
  have htime : 7 ∈ (s.polls 4).map (·.time) :=
    ((htick 4).mem_times_iff 7).mpr ⟨⟨5, by decide, by decide +kernel⟩, by decide +kernel⟩
  have hpolls : s.polls 4 ≠ [] := fun h => by simp [h] at htime
  have hnew : s.file.stamp? ≠ none := by decide +kernel
  have hattempts : s.attempts 4 = [s.file.read] :=
    (htick 4).attempts_eq.resolve_left ((htick 4).attempts_ne_nil_iff.mpr ⟨hpolls, hnew⟩)
  have hbroken : (Users.loadRead s.salt s.file.read).toOption = none := by decide +kernel
  refine ⟨htime, hattempts, (htick 4).directory_of_error ?_,
    (htick 4).attempts_later hpolls _ ?_ 5, hadd 1 3⟩
  · intro source hsource
    rw [hattempts, List.mem_singleton] at hsource
    rw [hsource]
    cases hload : Users.loadRead s.salt s.file.read with
    | error e => exact ⟨e, rfl⟩
    | ok entries =>
      rw [hload] at hbroken
      contradiction
  · intro us hus
    rw [← List.mem_inits] at hus
    revert us
    decide +kernel

end Session

end UserDirectory
