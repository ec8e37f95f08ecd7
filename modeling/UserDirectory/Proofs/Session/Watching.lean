import UserDirectory.Proofs.Session.History

/-!
# UserDirectory — the watch keeps up with the file

A watch compares stamps, not contents. What makes this enough is an invariant between the stamp that
the watch saw last, the file and the snapshot: as long as the file has that stamp, the entries are
those of the file, if it is a users document at all. A new version of the file has another stamp,
since no two versions carry the same time; and a poll either finds the stamp that it knows or loads
the file and remembers its stamp, whether it could be loaded or not.

When the watch wakes up is a matter of its own: it sleeps for a period, polls and sleeps again, so
at any moment it is going to wake up at the first second to come that is some periods after its start
(`Watch.OnTime`).

## Results

* `Watch.OnTime.wakesAt_le_iff` — when a poll is due.
* `Session.OnTime.run`          — a watch wakes up on time, whatever happens.
* `Session.InStep.step`         — a step keeps the watch in step with the file.
* `Session.run_watch_inStep`    — after a poll the entries are those of the file, if it loads.
-/

namespace UserDirectory

-- ---------------------------------------------------------------------------
-- When the watch wakes up
-- ---------------------------------------------------------------------------

/-- The watch wakes up at the first second after `now` that is one or more periods after `since`. -/
structure Watch.OnTime (w : Watch) (since period now : Nat) : Prop where
  /-- It has slept for whole periods since it was started. -/
  exists_eq : ∃ k, 1 ≤ k ∧ w.wakesAt = since + k * period
  /-- It has not overslept. -/
  now_lt : now < w.wakesAt
  /-- It does not sleep through a poll. -/
  le_add : w.wakesAt ≤ now + period

/-- A poll is due by some second if one of the seconds `since + period`, `since + 2 * period` and so
on is still to come and not later. -/
theorem Watch.OnTime.wakesAt_le_iff {w : Watch} {since period now later : Nat}
    (h : w.OnTime since period now) :
    w.wakesAt ≤ later ↔
      ∃ k, 1 ≤ k ∧ now < since + k * period ∧ since + k * period ≤ later := by
  obtain ⟨k, hk, hwakes⟩ := h.exists_eq
  have hnow := h.now_lt
  have hnear := h.le_add
  rw [hwakes] at hnow hnear ⊢
  constructor
  · exact fun hle => ⟨k, hk, hnow, hle⟩
  · rintro ⟨j, -, hj, hle⟩
    -- the watch wakes up no later than at the second `since + j * period`
    have hkj : k ≤ j := Nat.le_of_not_lt fun hlt => by
      have hmul : (j + 1) * period ≤ k * period := Nat.mul_le_mul_right period hlt
      rw [Nat.add_mul, Nat.one_mul] at hmul
      omega
    have hmul : k * period ≤ j * period := Nat.mul_le_mul_right period hkj
    omega

namespace Session

/-- A watch that is running was started at the second `since`, and wakes up on time. -/
def OnTime (s : Session) (since : Nat) : Prop :=
  ∀ w, s.watch? = some w → w.OnTime since s.period s.now

theorem period_pos (s : Session) : 0 < s.period := Reloading.period_pos _

theorem onTime_asleep (s : Session) : s.asleep.OnTime s.now s.period s.now where
  exists_eq := ⟨1, Nat.le_refl 1, by rw [Nat.one_mul]; rfl⟩
  now_lt := Nat.lt_add_of_pos_right s.period_pos
  le_add := Nat.le_refl _

/-- A watch that wakes up on time goes to sleep so as to wake up on time again. -/
theorem OnTime.wake {s : Session} {since : Nat} {w : Watch} (h : s.OnTime since)
    (hwatch : s.watch? = some w) : (s.wake w).OnTime since := by
  intro w' hw'
  rw [watch?_wake] at hw'
  cases hw'
  rw [period_wake, now_wake]
  obtain ⟨k, -, hk⟩ := (h w hwatch).exists_eq
  refine ⟨⟨k + 1, Nat.le_add_left 1 k, ?_⟩, ?_, Nat.le_refl _⟩
  · rw [hk, Nat.add_mul, Nat.one_mul, Nat.add_assoc]
  · exact Nat.lt_add_of_pos_right s.period_pos

/-- A watch wakes up on time however much time passes. -/
theorem OnTime.advance {s : Session} {since later : Nat} (h : s.OnTime since)
    (hlater : s.now ≤ later) : (s.advance later).OnTime since := by
  induction s using advance_induction later with
  | sleeps s hsleeps =>
    rw [advance_of_sleepsUntil hsleeps]
    intro w hwatch
    have hontime := h w hwatch
    exact ⟨hontime.exists_eq, hsleeps w hwatch,
      Nat.le_trans hontime.le_add (Nat.add_le_add_right hlater s.period)⟩
  | wakes s w hwatch hdue ih =>
    rw [advance_of_due hwatch hdue]
    exact ih (h.wake hwatch) (by rwa [now_wake])

theorem onTime_startWatch (s : Session) : s.startWatch.OnTime s.now := by
  intro w hwatch
  obtain ⟨-, hw⟩ := Option.ite_none_right_eq_some.mp hwatch
  cases hw
  exact s.onTime_asleep

/-- No step but `watch` starts a watch, and no step but a tick takes time. -/
theorem OnTime.step {s : Session} {since : Nat} (h : s.OnTime since) {t : Step}
    (ht : t ≠ .watch) : (s.step t).1.OnTime since := by
  have hperiod : (s.step t).1.period = s.period := by rw [period, config_step, period]
  intro w hw
  cases t with
  | watch => exact absurd rfl ht
  | load source =>
    rw [hperiod]
    rw [step_load] at hw ⊢
    exact h w hw
  | reload =>
    rw [hperiod]
    rw [step_reload] at hw ⊢
    exact h w hw
  | tick seconds => exact h.advance (Nat.le_add_right _ _) w hw
  | _ => exact h w hw

/-- A watch wakes up on time after any steps that do not start another one. -/
theorem OnTime.run {s : Session} {since : Nat} (h : s.OnTime since) {ts : List Step}
    (hts : ∀ t ∈ ts, t ≠ .watch) : (s.run ts).1.OnTime since := by
  induction ts generalizing s with
  | nil => exact h
  | cons t ts ih =>
    obtain ⟨ht, hrest⟩ := List.forall_mem_cons.mp hts
    exact ih (h.step ht) hrest

end Session

-- ---------------------------------------------------------------------------
-- The times of the file
-- ---------------------------------------------------------------------------

/-- The time that is found at the path after the step, if the step puts something there. -/
def Step.modified? : Step → Option Int
  | .write _ modified => some modified
  | .makeDirectory modified _ => some modified
  | _ => none

/-- The times of what the steps put at the path, be it a version of the file or a directory. -/
def versionTimes (ts : List Step) : List Int := ts.filterMap Step.modified?

/-- Whether a stamp, if there is one, carries one of the times. -/
def TimeAmong (stamp? : Option Stamp) (times : List Int) : Prop :=
  ∀ stamp ∈ stamp?, stamp.modified ∈ times

theorem TimeAmong.append {stamp? : Option Stamp} {times : List Int} (h : TimeAmong stamp? times)
    (more : List Int) : TimeAmong stamp? (times ++ more) :=
  fun stamp hstamp => List.mem_append_left _ (h stamp hstamp)

theorem timeAmong_some {stamp : Stamp} {times : List Int} (h : stamp.modified ∈ times) :
    TimeAmong (some stamp) times := by
  rintro _ ⟨⟩
  exact h

theorem timeAmong_none (times : List Int) : TimeAmong none times := by
  rintro _ ⟨⟩

/-- Whether a step neither loads a text of its own nor starts a watch. -/
def Step.KeepsWatch : Step → Prop
  | .load _ => False
  | .watch => False
  | _ => True

/-- Whether a step changes what is at the path of the users document. -/
def Step.OnFile : Step → Prop
  | .write _ _ => True
  | .remove => True
  | .makeDirectory _ _ => True
  | _ => False

namespace Session

/-- A session whose watch is in step with the file. The file carries, and the watch has seen, only
times among `times`. -/
structure InStep (s : Session) (w : Watch) (times : List Int) : Prop where
  watch_eq : s.watch? = some w
  seen_among : TimeAmong w.lastSeen times
  file_among : TimeAmong s.file.stamp? times
  /-- As long as the stamp is known, the entries are those of the file. -/
  entries_eq : s.file.stamp? = w.lastSeen → ∀ entries,
    Users.loadRead s.salt s.file.read = .ok entries → s.directory.snapshot.entries = entries

/-- A step changes the file by writing, removing or making a directory, and by nothing else. -/
theorem file_step (s : Session) (t : Step) :
    (s.step t).1.file = match t with
      | .write content modified => .file content modified
      | .remove => .absent
      | .makeDirectory modified size => .directory modified size
      | _ => s.file := by
  cases t with
  | load source => rw [step_load, loadFrom]
  | reload => rw [step_reload, loadFrom]
  | tick seconds =>
    show (s.tick seconds).file = s.file
    rw [tick_eq]
  | _ => rfl

/-- What a step puts at the path has the time of this step. -/
theorem timeAmong_step {s : Session} {times : List Int} (h : TimeAmong s.file.stamp? times)
    (t : Step) : TimeAmong (s.step t).1.file.stamp? (times ++ t.modified?.toList) := by
  rw [file_step]
  cases t with
  | write content modified =>
    exact timeAmong_some (List.mem_append_right _ (List.mem_singleton_self modified))
  | makeDirectory modified size =>
    exact timeAmong_some (List.mem_append_right _ (List.mem_singleton_self modified))
  | remove => exact timeAmong_none _
  | _ => exact h.append _

/-- The times of what the first step puts at the path, and of what the others put there. -/
theorem versionTimes_cons (t : Step) (ts : List Step) :
    versionTimes (t :: ts) = t.modified?.toList ++ versionTimes ts := by
  rw [versionTimes, List.filterMap_cons]
  cases t.modified? <;> rfl

/-- The file carries the time of one of its versions. -/
theorem timeAmong_run {s : Session} {times : List Int} (h : TimeAmong s.file.stamp? times)
    (ts : List Step) : TimeAmong (s.run ts).1.file.stamp? (times ++ versionTimes ts) := by
  induction ts generalizing s times with
  | nil =>
    rw [versionTimes, List.filterMap_nil, List.append_nil]
    exact h
  | cons t ts ih =>
    rw [versionTimes_cons, ← List.append_assoc]
    exact ih (timeAmong_step h t)

-- ---------------------------------------------------------------------------
-- One step
-- ---------------------------------------------------------------------------

theorem entries_loadFrom {s : Session} {source : Except FileError String} {entries : List Entry}
    (h : Users.loadRead s.salt source = .ok entries) :
    (s.loadFrom source).1.directory.snapshot.entries = entries := by
  rw [loadFrom_of_ok h]
  rfl

/-- A poll brings the watch in step with the file anew: either it finds the stamp that it knows, or
it loads the file. -/
theorem InStep.wake {s : Session} {w : Watch} {times : List Int} (h : s.InStep w times) :
    (s.wake w).InStep ⟨w.wakesAt + s.period, s.file.stamp?⟩ times where
  watch_eq := watch?_wake s w
  seen_among := h.file_among
  file_among := by
    rw [file_wake]
    exact h.file_among
  entries_eq := by
    intro _ entries hload
    rw [salt_wake, file_wake] at hload
    rw [directory_wake]
    split
    · next hseen => exact h.entries_eq hseen entries hload
    · rw [Directory.attempt_of_ok _ (a := ⟨w.wakesAt, s.file.read⟩) hload]
      rfl

/-- A watch stays in step however much time passes. -/
theorem InStep.advance {s : Session} {w : Watch} {times : List Int} (h : s.InStep w times)
    (later : Nat) : ∃ w', (s.advance later).InStep w' times := by
  induction s using advance_induction later generalizing w with
  | sleeps s hsleeps =>
    rw [advance_of_sleepsUntil hsleeps]
    exact ⟨w, h.watch_eq, h.seen_among, h.file_among, h.entries_eq⟩
  | wakes s w' hwatch hdue ih =>
    rw [advance_of_due hwatch hdue]
    cases h.watch_eq.symm.trans hwatch
    exact ih h.wake

/-- When a poll is due, the entries are those of the file after the tick, if it loads. -/
theorem InStep.entries_of_due {s : Session} {w : Watch} {times : List Int} (h : s.InStep w times)
    {seconds : Nat} (hdue : w.wakesAt ≤ s.now + seconds) {entries : List Entry}
    (hload : Users.loadRead s.salt s.file.read = .ok entries) :
    (s.tick seconds).directory.snapshot.entries = entries := by
  rw [tick, directory_advance h.watch_eq, if_pos hdue]
  refine h.wake.entries_eq ?_ entries ?_
  · rw [file_wake]
  · rwa [salt_wake, file_wake]

/-- A step that changes the file brings the watch in step with it, whatever was before: either
nothing can be loaded after it, or there is a version that the watch has not seen. -/
theorem inStep_of_onFile {s : Session} {w : Watch} {times : List Int} (hwatch : s.watch? = some w)
    (hseen : TimeAmong w.lastSeen times) (hfile : TimeAmong s.file.stamp? times) {t : Step}
    (ht : t.OnFile) (hnew : ∀ modified ∈ t.modified?, modified ∉ times) :
    (s.step t).1.InStep w (times ++ t.modified?.toList) := by
  have hfile' := timeAmong_step hfile t
  cases t with
  -- the watch has seen none of the times that are still to come
  | write content modified =>
    refine ⟨hwatch, hseen.append _, hfile', ?_⟩
    intro hstamp
    exact absurd (hseen ⟨modified, content.size⟩ hstamp.symm) (hnew modified rfl)
  | remove =>
    refine ⟨hwatch, hseen.append _, hfile', ?_⟩
    intro _ entries hload
    contradiction
  | makeDirectory modified size =>
    refine ⟨hwatch, hseen.append _, hfile', ?_⟩
    intro _ entries hload
    contradiction
  | _ => exact absurd ht id

/-- A step that keeps the watch keeps it in step with the file, if a version of the file that it
writes has a time of its own. -/
theorem InStep.step {s : Session} {w : Watch} {times : List Int} (h : s.InStep w times) {t : Step}
    (hkeeps : t.KeepsWatch) (hnew : ∀ modified ∈ t.modified?, modified ∉ times) :
    ∃ w', (s.step t).1.InStep w' (times ++ t.modified?.toList) := by
  have hfile := timeAmong_step h.file_among t
  have hseen := h.seen_among.append t.modified?.toList
  -- the three ways to change the file leave a stamp that the watch has not seen, or none
  cases t with
  | load source => exact absurd hkeeps id
  | watch => exact absurd hkeeps id
  | write content modified =>
    exact ⟨w, inStep_of_onFile h.watch_eq h.seen_among h.file_among trivial hnew⟩
  | remove => exact ⟨w, inStep_of_onFile h.watch_eq h.seen_among h.file_among trivial hnew⟩
  | makeDirectory modified size =>
    exact ⟨w, inStep_of_onFile h.watch_eq h.seen_among h.file_among trivial hnew⟩
  | reload =>
    rw [step_reload] at hfile ⊢
    refine ⟨w, h.watch_eq, hseen, hfile, ?_⟩
    exact fun _ entries hload => entries_loadFrom (s := s) hload
  | tick seconds =>
    obtain ⟨w', h'⟩ := h.advance (s.now + seconds)
    exact ⟨w', h'.watch_eq, h'.seen_among.append _, hfile, h'.entries_eq⟩
  | _ => exact ⟨w, h.watch_eq, hseen, hfile, h.entries_eq⟩

-- ---------------------------------------------------------------------------
-- Runs
-- ---------------------------------------------------------------------------

/-- A version that comes after others has another time than they have. -/
theorem modified_not_mem {times more : List Int} {t : Step}
    (h : (times ++ t.modified?.toList ++ more).Nodup) :
    ∀ modified ∈ t.modified?, modified ∉ times := by
  intro modified hm hmem
  obtain ⟨-, -, hdisjoint⟩ := List.nodup_append.mp (List.nodup_append.mp h).1
  exact hdisjoint modified hmem modified (Option.mem_toList.mpr hm) rfl

/-- Steps that keep the watch keep it in step with the file, if all versions of the file have times
of their own. -/
theorem InStep.run {s : Session} {w : Watch} {times : List Int} (h : s.InStep w times)
    {ts : List Step} (hkeeps : ∀ t ∈ ts, t.KeepsWatch) (hnodup : (times ++ versionTimes ts).Nodup) :
    ∃ w', (s.run ts).1.InStep w' (times ++ versionTimes ts) := by
  induction ts generalizing s w times with
  | nil =>
    rw [versionTimes, List.filterMap_nil, List.append_nil]
    exact ⟨w, h⟩
  | cons t ts ih =>
    rw [versionTimes_cons, ← List.append_assoc] at hnodup ⊢
    obtain ⟨w', h'⟩ := h.step (hkeeps t List.mem_cons_self) (modified_not_mem hnodup)
    exact ih h' (fun t' ht' => hkeeps t' (List.mem_cons_of_mem t ht')) hnodup

/-- A watch that is started when the entries are those of the file, or the file does not load, is in
step with it. -/
theorem inStep_startWatch {s : Session} {times : List Int}
    (henabled : s.directory.config.reloading.enabled = true)
    (hfile : TimeAmong s.file.stamp? times)
    (hentries : ∀ entries, Users.loadRead s.salt s.file.read = .ok entries →
      s.directory.snapshot.entries = entries) :
    s.startWatch.InStep s.asleep times where
  watch_eq := if_pos henabled
  seen_among := hfile
  file_among := hfile
  entries_eq _ := hentries

theorem versionTimes_append (ts us : List Step) :
    versionTimes (ts ++ us) = versionTimes ts ++ versionTimes us :=
  List.filterMap_append

/-- A file that does not load is not published, however often the watch looks at it. -/
theorem publishes?_tick_of_error {s : Session} {e : LoadError} {seconds : Nat}
    (h : Users.loadRead s.salt s.file.read = .error e) : s.publishes? (.tick seconds) = none := by
  rw [Option.eq_none_iff_forall_ne_some]
  intro p hp
  obtain ⟨ha, entries, hload⟩ := publishes?_eq_some_iff.mp hp
  -- whatever a tick sets out to load is what the file gives
  have hread : s.file.read = .ok p.source := by
    rw [attempt?] at ha
    split at ha
    · simp at ha
    · split at ha
      · exact congrArg Attempt.source (Option.some.inj ha)
      · simp at ha
  rw [hread, Users.loadRead, hload] at h
  contradiction

/-- In a run the file carries the time of one of its versions, if there is a file. -/
theorem timeAmong_run_fresh (config : Config) (salt : Password.Salt) (ts : List Step) :
    TimeAmong ((fresh config salt).run ts).1.file.stamp? (versionTimes ts) :=
  timeAmong_run (s := fresh config salt) (timeAmong_none []) ts

/-- In a run in which a watch is started when the entries are those of the file, or the file does
not load, and no other watch is started and no text loaded after that, the watch is in step with the
file. -/
theorem exists_inStep_run {config : Config} {salt : Password.Salt} {before after : List Step}
    (henabled : config.reloading.enabled = true)
    (htimes : (versionTimes (before ++ .watch :: after)).Nodup)
    (hkeeps : ∀ t ∈ after, t.KeepsWatch)
    (hentries : ∀ entries,
      Users.loadRead salt ((fresh config salt).run before).1.file.read = .ok entries →
      ((fresh config salt).run before).1.directory.snapshot.entries = entries) :
    ∃ w times, ((fresh config salt).run (before ++ .watch :: after)).1.InStep w times := by
  rw [versionTimes_append, versionTimes_cons] at htimes
  have hfile := timeAmong_run_fresh config salt before
  have hsalt := salt_run (fresh config salt) before
  have hconfig := config_run (fresh config salt) before
  rw [run_append]
  -- from here on it only matters what the state is like in which the watch starts
  generalize ((fresh config salt).run before).1 = started at *
  have henabled' : started.directory.config.reloading.enabled = true := by
    rw [hconfig]
    exact henabled
  have hentries' : ∀ entries, Users.loadRead started.salt started.file.read = .ok entries →
      started.directory.snapshot.entries = entries := by
    rw [hsalt]
    exact hentries
  obtain ⟨w, hstep⟩ := (inStep_startWatch henabled' hfile hentries').run hkeeps htimes
  exact ⟨w, _, hstep⟩

theorem ne_watch_of_keepsWatch {t : Step} (h : t.KeepsWatch) : t ≠ .watch := by
  rintro rfl
  exact h

/-- The watch that was started last wakes up on time. -/
theorem onTime_run_fresh (config : Config) (salt : Password.Salt) (before : List Step)
    {after : List Step} (hafter : ∀ t ∈ after, t ≠ .watch) :
    ((fresh config salt).run (before ++ .watch :: after)).1.OnTime
      ((fresh config salt).run before).1.now := by
  rw [run_append]
  exact (onTime_startWatch _).run hafter

/-- A watch is started when the entries are those of the file, or the file does not load; after that
no text is loaded but that of the file, and no other watch is started; and no two versions of the
file carry the same time. Then, after each tick in which a poll is due, the entries are those of the
file if it loads, and otherwise the snapshot is the one that the loads before have led to. -/
theorem run_watch_inStep (config : Config) (salt : Password.Salt) (before after : List Step)
    (seconds : Nat) (henabled : config.reloading.enabled = true)
    (htimes : (versionTimes (before ++ .watch :: after)).Nodup)
    (hkeeps : ∀ t ∈ after, t.KeepsWatch) :
    let started := ((fresh config salt).run before).1
    let s := ((fresh config salt).run (before ++ .watch :: after)).1
    let s' := (s.step (.tick seconds)).1
    (∀ entries, Users.loadRead salt started.file.read = .ok entries →
      started.directory.snapshot.entries = entries) →
    (∃ k, 1 ≤ k ∧ s.now < started.now + k * config.reloading.period ∧
      started.now + k * config.reloading.period ≤ s.now + seconds) →
    (∀ entries, Users.loadRead salt s'.file.read = .ok entries →
      s'.directory.snapshot.entries = entries) ∧
    ∀ e, Users.loadRead salt s'.file.read = .error e →
      s'.Reflects ((fresh config salt).published (before ++ .watch :: after)) := by
  intro started s s' hentries hdue
  have hsalt : s.salt = salt := salt_run (fresh config salt) (before ++ .watch :: after)
  have hconfig : s.directory.config = config :=
    config_run (fresh config salt) (before ++ .watch :: after)
  have hfile : s'.file = s.file := file_step s (.tick seconds)
  refine ⟨?_, ?_⟩
  · -- the invariant holds before the tick, and a poll that is due finds either what is known or
    -- something new
    intro entries hload
    rw [hfile, ← hsalt] at hload
    obtain ⟨w, times, hstep⟩ := exists_inStep_run henabled htimes hkeeps hentries
    have hontime := onTime_run_fresh config salt before
      fun t ht => ne_watch_of_keepsWatch (hkeeps t ht)
    refine hstep.entries_of_due ((hontime w hstep.watch_eq).wakesAt_le_iff.mpr ?_) hload
    rw [period, hconfig]
    exact hdue
  · -- no poll can publish a file that does not load
    intro e herror
    rw [hfile, ← hsalt] at herror
    have hreflects := ((reflects_fresh config salt).run (before ++ .watch :: after)).step
      (.tick seconds)
    rwa [publishes?_tick_of_error herror, Option.toList_none, List.append_nil,
      List.nil_append] at hreflects

/-- A version of the file that is written while the watch runs is loaded when the first poll is
due. -/
theorem run_watch_inStep_write :
    let config : Config := ⟨"o=a", "users.yaml", {}⟩
    let salt : Password.Salt := ⟨[1, 2, 3, 4], rfl⟩
    let before : List Step := [.write "users: []".toUTF8 1, .reload]
    let after : List Step := [.tick 9, .write "users: [\x7bdn: o=a\x7d]".toUTF8 2]
    let s := ((fresh config salt).run (before ++ .watch :: after)).1
    s.directory.snapshot.entries = [] ∧
      (s.step (.tick 1)).1.directory.snapshot.entries = [⟨"o=a", []⟩] := by
  intro config salt before after s
  have hstarted : (Users.loadRead salt ((fresh config salt).run before).1.file.read).toOption =
      some ((fresh config salt).run before).1.directory.snapshot.entries := by decide +kernel
  have hwritten : (Users.loadRead salt (s.step (.tick 1)).1.file.read).toOption =
      some [⟨"o=a", []⟩] := by decide +kernel
  have hpoll : s.now < ((fresh config salt).run before).1.now + 1 * config.reloading.period ∧
      ((fresh config salt).run before).1.now + 1 * config.reloading.period ≤ s.now + 1 := by
    decide +kernel
  refine ⟨by decide +kernel, ?_⟩
  refine (run_watch_inStep config salt before after 1 rfl (by decide) ?_ ?_
    ⟨1, Nat.le_refl 1, hpoll⟩).1 _ (Users.toOption_eq_some_iff.mp hwritten)
  · intro t ht
    simp only [after, List.mem_cons, List.not_mem_nil, or_false] at ht
    rcases ht with rfl | rfl <;> trivial
  · intro entries hload
    rw [hload] at hstarted
    exact (Option.some.inj hstarted).symm

end Session

end UserDirectory
