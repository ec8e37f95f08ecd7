import UserDirectory.Proofs.Session.Watching

/-!
# UserDirectory — from the first load to the watch

A session loads the file, and some time later it starts a watch. The watch takes the stamp that it
finds at its start for the one that was loaded. So a change of the file in between is not noticed,
and it stays unnoticed until the file changes once more: only then is the watch in step with the
file.

## Results

* `Session.idle_or_inStep_run`    — a watch does nothing, or it is in step with the file.
* `Session.run_reload_watch_iff`  — when the entries are those of the file after a poll.
-/

namespace UserDirectory

namespace Session

-- ---------------------------------------------------------------------------
-- Steps on the file
-- ---------------------------------------------------------------------------

theorem directory_step_of_onFile {t : Step} (s : Session) (h : t.OnFile) :
    (s.step t).1.directory = s.directory := by
  cases t with
  | write content modified => rfl
  | remove => rfl
  | makeDirectory modified size => rfl
  | _ => exact absurd h id

theorem directory_run_of_onFile (s : Session) {ts : List Step} (h : ∀ t ∈ ts, t.OnFile) :
    (s.run ts).1.directory = s.directory := by
  induction ts generalizing s with
  | nil => rfl
  | cons t ts ih =>
    obtain ⟨ht, hts⟩ := List.forall_mem_cons.mp h
    exact (ih (s.step t).1 hts).trans (directory_step_of_onFile s ht)

/-- After a load of the file its entries stay, however the file changes. -/
theorem entries_run_reload {s : Session} {loaded : List Entry} {ts : List Step}
    (hload : Users.loadRead s.salt s.file.read = .ok loaded) (hts : ∀ t ∈ ts, t.OnFile) :
    (s.run (.reload :: ts)).1.directory.snapshot.entries = loaded := by
  show ((s.step .reload).1.run ts).1.directory.snapshot.entries = loaded
  rw [directory_run_of_onFile _ hts, step_reload]
  exact entries_loadFrom hload

theorem keepsWatch_of_onFile {t : Step} (h : t.OnFile) : t.KeepsWatch := by
  cases t with
  | load source => exact h
  | watch => exact h
  | _ => trivial

-- ---------------------------------------------------------------------------
-- A watch that knows the file
-- ---------------------------------------------------------------------------

/-- A watch that knows the stamp of the file leaves the directory alone as long as only ticks follow.
With the first change of the file it comes in step with it, whatever the entries were, and then stays
so. -/
theorem idle_or_inStep_run {s : Session} {w : Watch} {times : List Int} {ts : List Step}
    (hwatch : s.watch? = some w) (hknows : s.KnowsFile) (hfile : TimeAmong s.file.stamp? times)
    (hnodup : (times ++ versionTimes ts).Nodup)
    (hts : ∀ t ∈ ts, t.OnFile ∨ ∃ seconds, t = .tick seconds) :
    (∀ t ∈ ts, ¬ t.OnFile) ∧ (s.run ts).1.KnowsFile ∧ (s.run ts).1.file = s.file ∧
        (s.run ts).1.directory = s.directory ∨
      (∃ t ∈ ts, t.OnFile) ∧ ∃ w', (s.run ts).1.InStep w' (times ++ versionTimes ts) := by
  induction ts generalizing s w with
  | nil => exact .inl ⟨fun _ ht => absurd ht List.not_mem_nil, hknows, rfl, rfl⟩
  | cons t ts ih =>
    obtain ⟨ht, hrest⟩ := List.forall_mem_cons.mp hts
    rcases ht with hchange | ⟨seconds, rfl⟩
    · -- the first change: the invariant holds from here on
      refine .inr ⟨⟨t, List.mem_cons_self, hchange⟩, ?_⟩
      rw [versionTimes_cons, ← List.append_assoc] at hnodup ⊢
      have hstep : (s.step t).1.InStep w (times ++ t.modified?.toList) :=
        inStep_of_onFile hwatch (hknows w hwatch ▸ hfile) hfile hchange (modified_not_mem hnodup)
      refine hstep.run ?_ hnodup
      intro t' ht'
      rcases hrest t' ht' with h | ⟨seconds, rfl⟩
      · exact keepsWatch_of_onFile h
      · trivial
    · -- a tick: the watch polls, but finds what it knows
      have hsame : (s.step (.tick seconds)).1.file = s.file := file_step s (.tick seconds)
      have hidle : (s.step (.tick seconds)).1.directory = s.directory :=
        hknows.directory_advance _
      obtain ⟨w', hwatch'⟩ : ∃ w', (s.advance (s.now + seconds)).watch? = some w' := by
        rw [← Option.isSome_iff_exists, isSome_watch?_advance, hwatch]
        rfl
      have hnext := ih (s := (s.step (.tick seconds)).1) hwatch' (hknows.advance _)
        (hsame ▸ hfile) hnodup hrest
      rw [hsame, hidle] at hnext
      rcases hnext with ⟨hnone, hrun⟩ | ⟨⟨t', ht', hchange⟩, hstep⟩
      · exact .inl ⟨List.forall_mem_cons.mpr ⟨id, hnone⟩, hrun⟩
      · exact .inr ⟨⟨t', List.mem_cons_of_mem _ ht', hchange⟩, hstep⟩

/-- Whether a step changes the file or lets time pass, it starts no watch. -/
theorem ne_watch_of_onFile_or_tick {t : Step} (h : t.OnFile ∨ ∃ seconds, t = .tick seconds) :
    t ≠ .watch := by
  rintro rfl
  rcases h with h | ⟨seconds, h⟩
  · exact h
  · contradiction

/-- A watch is started and then only the file changes and time passes. If the file changes, then the
entries are those of the file after each poll; otherwise they are what they were at the start. -/
theorem entries_of_startWatch {s : Session} {times : List Int} {ts : List Step}
    (seconds : Nat) (henabled : s.directory.config.reloading.enabled = true)
    (hfile : TimeAmong s.file.stamp? times) (hnodup : (times ++ versionTimes ts).Nodup)
    (hts : ∀ t ∈ ts, t.OnFile ∨ ∃ seconds, t = .tick seconds) :
    let reached := (s.startWatch.run ts).1
    ((∀ t ∈ ts, ¬ t.OnFile) → reached.file = s.file ∧
      (reached.tick seconds).directory = s.directory) ∧
    ((∃ t ∈ ts, t.OnFile) →
      (∃ k, 1 ≤ k ∧ reached.now < s.now + k * s.directory.config.reloading.period ∧
        s.now + k * s.directory.config.reloading.period ≤ reached.now + seconds) →
      ∀ entries, Users.loadRead s.salt reached.file.read = .ok entries →
        (reached.tick seconds).directory.snapshot.entries = entries) := by
  intro reached
  have hwatch : s.startWatch.watch? = some s.asleep := if_pos henabled
  -- the watch takes its first stamp from the file as it is
  have hknows : s.startWatch.KnowsFile := by
    intro w hw
    cases hwatch.symm.trans hw
    rfl
  have hconfig : reached.directory.config = s.directory.config := config_run s.startWatch ts
  have hsalt : reached.salt = s.salt := salt_run s.startWatch ts
  rcases idle_or_inStep_run hwatch hknows hfile hnodup hts with
    ⟨hnone, hknows, hsame, hidle⟩ | ⟨⟨t, ht, hchange⟩, w, hstep⟩
  · refine ⟨fun _ => ⟨hsame, ?_⟩, fun ⟨t, ht, hchange⟩ => absurd hchange (hnone t ht)⟩
    exact (hknows.directory_advance _).trans hidle
  · refine ⟨fun hnone => absurd hchange (hnone t ht), fun _ hdue entries hload => ?_⟩
    have hontime : reached.OnTime s.now :=
      (onTime_startWatch s).run fun t ht => ne_watch_of_onFile_or_tick (hts t ht)
    refine hstep.entries_of_due ((hontime w hstep.watch_eq).wakesAt_le_iff.mpr ?_) (hsalt ▸ hload)
    rw [period, hconfig]
    exact hdue

-- ---------------------------------------------------------------------------
-- Runs
-- ---------------------------------------------------------------------------

/-- The file is loaded, then it may change, then a watch is started, and then the file may change
again; no two versions of the file carry the same time. As long as the file has not changed since
the start of the watch, the entries stay those that were loaded. So after each tick in which a poll
is due, the entries are those of the file, if it loads, just if there has been such a change or if
the file gave at the start of the watch what had been loaded. -/
theorem run_reload_watch_iff (config : Config) (salt : Password.Salt)
    (before between after : List Step) (seconds : Nat)
    (henabled : config.reloading.enabled = true)
    (htimes : (versionTimes (before ++ .reload :: between ++ .watch :: after)).Nodup)
    (hbetween : ∀ t ∈ between, t.OnFile)
    (hafter : ∀ t ∈ after, t.OnFile ∨ ∃ seconds, t = .tick seconds) :
    let started := ((fresh config salt).run (before ++ .reload :: between)).1
    let s := ((fresh config salt).run (before ++ .reload :: between ++ .watch :: after)).1
    let s' := (s.step (.tick seconds)).1
    ∀ loaded, Users.loadRead salt ((fresh config salt).run before).1.file.read = .ok loaded →
    (∃ k, 1 ≤ k ∧ s.now < started.now + k * config.reloading.period ∧
      started.now + k * config.reloading.period ≤ s.now + seconds) →
    ((∀ t ∈ after, ¬ t.OnFile) →
      s'.file = started.file ∧ s'.directory.snapshot.entries = loaded) ∧
    ((∀ entries, Users.loadRead salt s'.file.read = .ok entries →
        s'.directory.snapshot.entries = entries) ↔
      (∃ t ∈ after, t.OnFile) ∨
        ∀ entries, Users.loadRead salt started.file.read = .ok entries → entries = loaded) := by
  intro started s s' loaded hloaded hdue
  have hsalt : started.salt = salt := salt_run _ _
  have hconfig : started.directory.config = config := config_run _ _
  have henabled' : started.directory.config.reloading.enabled = true := by
    rw [hconfig]
    exact henabled
  have hentries : started.directory.snapshot.entries = loaded := by
    rw [show started = _ from run_append (fresh config salt) before (.reload :: between)]
    exact entries_run_reload (by rwa [salt_run]) hbetween
  -- the run up to the watch is one run, and what follows it is another one from there
  have hs : s = (started.startWatch.run after).1 :=
    run_append _ (before ++ .reload :: between) (.watch :: after)
  have hfile : s'.file = s.file := file_step s (.tick seconds)
  rw [versionTimes_append, versionTimes_cons] at htimes
  obtain ⟨hidle, hchanged⟩ := entries_of_startWatch seconds henabled'
    (timeAmong_run_fresh config salt _) htimes hafter
  rw [← hs, hconfig, hsalt] at hchanged
  rw [← hs] at hidle
  -- a change since the start brings the entries in step; without one the directory is as it was
  by_cases hchange : ∃ t ∈ after, t.OnFile
  · have hcurrent : ∀ entries, Users.loadRead salt s'.file.read = .ok entries →
        s'.directory.snapshot.entries = entries := by
      rw [hfile]
      exact hchanged hchange hdue
    obtain ⟨t, ht, hfirst⟩ := hchange
    exact ⟨fun hnone => absurd hfirst (hnone t ht), fun _ => .inl ⟨t, ht, hfirst⟩,
      fun _ => hcurrent⟩
  · obtain ⟨hsame, hdirectory⟩ := hidle fun t ht h => hchange ⟨t, ht, h⟩
    have hsame' : s'.file = started.file := hfile.trans hsame
    have hstill : s'.directory.snapshot.entries = loaded :=
      (congrArg (·.snapshot.entries) hdirectory).trans hentries
    refine ⟨fun _ => ⟨hsame', hstill⟩, ?_⟩
    -- the file is the one of the start, so that both sides speak of the same text
    rw [hsame', hstill, or_iff_right hchange]
    exact forall_congr' fun entries => imp_congr_right fun _ => eq_comm

/-- A version that is written between the load and the start of the watch is noticed with the next
change of the file. -/
theorem run_reload_watch_later :
    let config : Config := ⟨"o=a", "users.yaml", {}⟩
    let salt : Password.Salt := ⟨[1, 2, 3, 4], rfl⟩
    let before : List Step := [.write "users: []".toUTF8 1]
    let between : List Step := [.write "users: [\x7bdn: o=a\x7d]".toUTF8 2]
    let after : List Step := [.tick 9, .write "users: [\x7bdn: o=b\x7d]".toUTF8 3]
    let s := ((fresh config salt).run (before ++ .reload :: between ++ .watch :: after)).1
    s.directory.snapshot.entries = [] ∧
      (s.step (.tick 1)).1.directory.snapshot.entries = [⟨"o=b", []⟩] := by
  intro config salt before between after s
  have hloaded : (Users.loadRead salt ((fresh config salt).run before).1.file.read).toOption =
      some [] := by decide +kernel
  have hwritten : (Users.loadRead salt (s.step (.tick 1)).1.file.read).toOption =
      some [⟨"o=b", []⟩] := by decide +kernel
  -- the tenth second after the start is the one second of the tick
  have hpoll : s.now < ((fresh config salt).run (before ++ .reload :: between)).1.now +
        1 * config.reloading.period ∧
      ((fresh config salt).run (before ++ .reload :: between)).1.now +
        1 * config.reloading.period ≤ s.now + 1 := by
    decide +kernel
  refine ⟨by decide +kernel, ?_⟩
  have hiff := (run_reload_watch_iff config salt before between after 1 rfl (by decide) ?_ ?_ []
    (Users.toOption_eq_some_iff.mp hloaded) ⟨1, Nat.le_refl 1, hpoll⟩).2
  · exact hiff.mpr (.inl ⟨_, List.mem_cons_of_mem _ List.mem_cons_self, trivial⟩) _
      (Users.toOption_eq_some_iff.mp hwritten)
  · intro t ht
    rw [List.mem_singleton] at ht
    rw [ht]
    trivial
  · intro t ht
    simp only [after, List.mem_cons, List.not_mem_nil, or_false] at ht
    rcases ht with rfl | rfl
    · exact .inr ⟨9, rfl⟩
    · exact .inl trivial

/-- But if the file does not change any more, the entries stay those of the version before. -/
theorem run_reload_watch_lost :
    let config : Config := ⟨"o=a", "users.yaml", {}⟩
    let salt : Password.Salt := ⟨[1, 2, 3, 4], rfl⟩
    let s := ((fresh config salt).run [.write "users: [\x7bdn: a\x7d]".toUTF8 1, .reload,
      .write "users: [\x7bdn: b\x7d]".toUTF8 2, .watch, .tick 10]).1
    config.reloading.enabled = true ∧ config.reloading.period = 10 ∧
      (Users.loadRead salt s.file.read).toOption = some [⟨"b", []⟩] ∧
      s.directory.snapshot.entries = [⟨"a", []⟩] := by
  decide +kernel

end Session

end UserDirectory
