import UserDirectory.Proofs.Session.Loading
import UserDirectory.Proofs.Users.Records

/-!
# UserDirectory — the snapshot and its history

A session that starts with nothing loaded has, at every moment, a history: the texts of the users
documents that have been loaded with success, whether from a text, from the file or by the watch
(`Session.published`). The snapshot is what the history says it is (`Session.Reflects`), whatever
else has happened and however many loads have failed in between.

## Results

* `Session.Reflects.step`, `Session.Reflects.run` — the snapshot keeps up with the history.
* `Session.run_fresh_reflects` — so it does in every state that a run from the start reaches, where
  every load also answers what it has done, and snapshots that were kept never change.
-/

namespace UserDirectory

namespace Session

/-- A session in which nothing has been loaded yet, and with no file. -/
def fresh (config : Config) (salt : Password.Salt) : Session := { directory := { config }, salt }

/-- A load that has succeeded: the second at which it did, and the text of its users document. -/
structure Publication where
  time : Nat
  source : String
  deriving DecidableEq, Repr

/-- The load that a step makes with success, if it does. -/
def publishes? (s : Session) (t : Step) : Option Publication :=
  match s.attempt? t with
  | some ⟨time, .ok source⟩ =>
    if (Users.loadText s.salt source).isOk then some ⟨time, source⟩ else none
  | _ => none

/-- The loads that a run makes with success, in order. -/
def published (s : Session) : List Step → List Publication
  | [] => []
  | t :: ts => (s.publishes? t).toList ++ (s.step t).1.published ts

/-- The snapshot is the one that the given loads have led to. -/
structure Reflects (s : Session) (history : List Publication) : Prop where
  /-- As many loads have succeeded. -/
  generation_eq : s.directory.snapshot.generation = history.length
  /-- The snapshot was published when the last of them succeeded. -/
  loadedAt?_eq : s.directory.snapshot.loadedAt? = history.getLast?.map (·.time)
  /-- The snapshot has been published by a load if there was one. -/
  loaded_iff : s.directory.snapshot.loadedAt?.isSome = true ↔ 0 < s.directory.snapshot.generation
  /-- There are no entries before the first load. -/
  entries_eq_nil : history = [] → s.directory.snapshot.entries = []
  /-- The entries are those of the text that was loaded last. -/
  entries_eq_last : ∀ publication ∈ history.getLast?,
    Users.loadText s.salt publication.source = .ok s.directory.snapshot.entries

-- ---------------------------------------------------------------------------
-- One step
-- ---------------------------------------------------------------------------

/-- A load that succeeds publishes the entries and tells how many there are. -/
theorem loadFrom_of_ok {s : Session} {source : Except FileError String} {entries : List Entry}
    (h : Users.loadRead s.salt source = .ok entries) :
    s.loadFrom source =
      ({ s with directory := s.directory.publish s.now entries },
        .loaded (.ok entries.length)) := by
  rw [loadFrom, Directory.attempt_of_ok _ h, h]
  rfl

theorem loadFrom_of_error {s : Session} {source : Except FileError String} {e : LoadError}
    (h : Users.loadRead s.salt source = .error e) :
    s.loadFrom source = (s, .loaded (.error e)) := by
  rw [loadFrom, Directory.attempt_of_error _ h, h]
  rfl

/-- A step makes a load with success if it sets out to load a text that is a users document. -/
theorem publishes?_eq_some_iff {s : Session} {t : Step} {p : Publication} :
    s.publishes? t = some p ↔
      s.attempt? t = some ⟨p.time, .ok p.source⟩ ∧
        ∃ entries, Users.loadText s.salt p.source = .ok entries := by
  unfold publishes?
  constructor
  · intro h
    split at h
    · next time source ha =>
      split at h
      · next hload =>
        cases h
        exact ⟨ha, isOk_iff.mp hload⟩
      · simp at h
    · simp at h
  · rintro ⟨ha, hload⟩
    rw [ha]
    exact if_pos (isOk_iff.mpr hload)

/-- What a load with success publishes, and when. -/
theorem snapshot_of_publishes {s : Session} {t : Step} {p : Publication}
    (h : s.publishes? t = some p) :
    ∃ entries, Users.loadText s.salt p.source = .ok entries ∧
      (s.step t).1.directory.snapshot = s.directory.snapshot.publish p.time entries := by
  obtain ⟨ha, entries, he⟩ := publishes?_eq_some_iff.mp h
  refine ⟨entries, he, ?_⟩
  rw [step_directory, ha]
  show (s.directory.attempt s.salt ⟨p.time, .ok p.source⟩).snapshot = _
  rw [Directory.attempt_of_ok _ (a := ⟨p.time, .ok p.source⟩) he]
  rfl

/-- A step that loads nothing, because it does not set out to or because it fails, leaves the
directory alone. -/
theorem directory_of_not_publishes {s : Session} {t : Step} (h : s.publishes? t = none) :
    (s.step t).1.directory = s.directory := by
  rw [step_directory]
  cases ha : s.attempt? t with
  | none => rfl
  | some a =>
    show s.directory.attempt s.salt a = s.directory
    cases hr : Users.loadRead s.salt a.source with
    | error e => exact Directory.attempt_of_error _ hr
    | ok entries =>
      -- the attempt has succeeded, so the step has made a load
      obtain ⟨time, source⟩ := a
      cases source with
      | error cause => simp [Users.loadRead] at hr
      | ok source =>
        rw [publishes?_eq_some_iff (p := ⟨time, source⟩).mpr ⟨ha, entries, hr⟩] at h
        contradiction

/-- The snapshot keeps up with the history in every step. -/
theorem Reflects.step {s : Session} {history : List Publication} (h : s.Reflects history)
    (t : Step) : (s.step t).1.Reflects (history ++ (s.publishes? t).toList) := by
  cases hp : s.publishes? t with
  | none =>
    rw [Option.toList_none, List.append_nil]
    have hd := directory_of_not_publishes hp
    refine ⟨?_, ?_, ?_, ?_, ?_⟩
    · rw [hd, h.generation_eq]
    · rw [hd, h.loadedAt?_eq]
    · rw [hd, h.loaded_iff]
    · rw [hd]
      exact h.entries_eq_nil
    · rw [hd, salt_step]
      exact h.entries_eq_last
  -- the new snapshot counts one more, and its entries and time are those of the last publication
  | some p =>
    obtain ⟨entries, hload, hs⟩ := snapshot_of_publishes hp
    refine ⟨?_, ?_, ?_, ?_, ?_⟩
    · rw [hs, Option.toList_some, List.length_append, ← h.generation_eq]
      rfl
    · rw [hs, Option.toList_some, List.getLast?_concat]
      rfl
    · rw [hs]
      simp [Snapshot.publish]
    · intro hnil
      simp at hnil
    · rw [hs, salt_step, Option.toList_some, List.getLast?_concat]
      rintro _ ⟨⟩
      exact hload

/-- In every run the state goes on to reflect what has been published. -/
theorem Reflects.run {s : Session} {history : List Publication} (h : s.Reflects history)
    (ts : List Step) : (s.run ts).1.Reflects (history ++ s.published ts) := by
  induction ts generalizing s history with
  | nil =>
    rw [published, List.append_nil]
    exact h
  | cons t ts ih =>
    rw [published, ← List.append_assoc]
    exact ih (h.step t)

theorem reflects_fresh (config : Config) (salt : Password.Salt) :
    (fresh config salt).Reflects [] where
  generation_eq := rfl
  loadedAt?_eq := rfl
  loaded_iff := by simp [fresh]
  entries_eq_nil _ := rfl
  entries_eq_last := by simp

-- ---------------------------------------------------------------------------
-- Runs
-- ---------------------------------------------------------------------------

/-- A load ends as `outcome` says: it answers how many entries there are and publishes them at this
second, or it answers with the error and leaves the snapshot as it is, with the time at which it was
published. -/
structure LoadEnds (s : Session) (t : Step) (outcome : Except LoadError (List Entry)) : Prop where
  answer_eq : (s.step t).2 = .loaded (outcome.map List.length)
  snapshot_of_ok : ∀ entries, outcome = .ok entries →
    (s.step t).1.directory.snapshot =
      ⟨entries, s.directory.snapshot.generation + 1, some s.now⟩
  snapshot_of_error : ∀ e, outcome = .error e →
    (s.step t).1.directory.snapshot = s.directory.snapshot

/-- A step that loads what was to be read ends as what was read says. -/
theorem loadEnds_of_step {s : Session} {t : Step} {source : Except FileError String}
    (h : s.step t = s.loadFrom source) : s.LoadEnds t (Users.loadRead s.salt source) := by
  cases hr : Users.loadRead s.salt source with
  | error e =>
    rw [loadFrom_of_error hr] at h
    refine ⟨?_, ?_, ?_⟩
    · rw [h]
      rfl
    · intro entries he
      contradiction
    · intro e' _
      rw [h]
  | ok entries =>
    rw [loadFrom_of_ok hr] at h
    refine ⟨?_, ?_, ?_⟩
    · rw [h]
      rfl
    · rintro _ ⟨⟩
      rw [h]
      rfl
    · intro e he
      contradiction

/-- What every step keeps, a run keeps. -/
theorem run_of_step {P : Session → Prop} (hstep : ∀ s t, P s → P (s.step t).1) {s : Session}
    (h : P s) (ts : List Step) : P (s.run ts).1 := by
  induction ts generalizing s with
  | nil => exact h
  | cons t ts ih => exact ih (hstep s t h)

/-- What a run answers, a step answers in a state that the run reaches. -/
theorem exists_of_mem_run {s : Session} {ts : List Step} {answer : Answer}
    (h : answer ∈ (s.run ts).2) :
    ∃ before t after, ts = before ++ t :: after ∧ answer = ((s.run before).1.step t).2 := by
  induction ts generalizing s with
  | nil => exact absurd h List.not_mem_nil
  | cons t ts ih =>
    rcases List.mem_cons.mp h with rfl | h
    · exact ⟨[], t, ts, rfl, rfl⟩
    · obtain ⟨before, t', after, rfl, rfl⟩ := ih h
      exact ⟨t :: before, t', after, rfl, rfl⟩

theorem salt_run (s : Session) (ts : List Step) : (s.run ts).1.salt = s.salt :=
  run_of_step (P := fun reached => reached.salt = s.salt)
    (fun reached t h => (salt_step reached t).trans h) rfl ts

theorem config_step (s : Session) (t : Step) :
    (s.step t).1.directory.config = s.directory.config := by
  rw [step_directory]
  split
  · rfl
  · exact Directory.config_attempt _ _ _

theorem config_run (s : Session) (ts : List Step) :
    (s.run ts).1.directory.config = s.directory.config :=
  run_of_step (P := fun reached => reached.directory.config = s.directory.config)
    (fun reached t h => (config_step reached t).trans h) rfl ts

theorem run_append (s : Session) (ts us : List Step) :
    (s.run (ts ++ us)).1 = ((s.run ts).1.run us).1 := by
  induction ts generalizing s with
  | nil => rfl
  | cons t ts ih => exact ih (s.step t).1

/-- Snapshots that were kept stay where and as they are, whatever happens. -/
theorem kept_prefix_run (s : Session) (ts : List Step) : s.kept <+: (s.run ts).1.kept :=
  run_of_step (P := fun reached => s.kept <+: reached.kept)
    (fun reached t h => h.trans (kept_prefix_step reached t)) List.prefix_rfl ts

/-- A snapshot that was kept is found under its index ever after. -/
theorem kept_run_of_getElem? {s : Session} {index : Nat} {snapshot : Snapshot}
    (h : s.kept[index]? = some snapshot) (ts : List Step) :
    (s.run ts).1.kept[index]? = some snapshot := by
  obtain ⟨later, hlater⟩ := kept_prefix_run s ts
  obtain ⟨hlt, -⟩ := List.getElem?_eq_some_iff.mp h
  rw [← hlater, List.getElem?_append_left hlt]
  exact h

/-- In every state that a run from the start reaches, the snapshot reflects the loads that have
succeeded so far. From there, every load ends as the text to be loaded says; a step that publishes
nothing leaves the snapshot as it is, and any other one publishes the entries of its text; to load
the file is to load its text; and a snapshot that is kept, like those that were kept before, is the
same ever after. -/
theorem run_fresh_reflects (config : Config) (salt : Password.Salt) (ts : List Step) :
    let s := ((fresh config salt).run ts).1
    s.Reflects ((fresh config salt).published ts) ∧
    (∀ source, s.LoadEnds (.load source) (Users.loadText salt source)) ∧
    s.LoadEnds .reload (Users.loadRead salt s.file.read) ∧
    (∀ t, s.publishes? t = none → (s.step t).1.directory.snapshot = s.directory.snapshot) ∧
    (∀ t publication, s.publishes? t = some publication →
      ∃ entries, Users.loadText salt publication.source = .ok entries ∧
        (s.step t).1.directory.snapshot =
          ⟨entries, s.directory.snapshot.generation + 1, some publication.time⟩) ∧
    (∀ content modified, s.file = .file content.toUTF8 modified →
      s.step .reload = s.step (.load content)) ∧
    (∀ us, ((s.step .hold).1.run us).1.kept[s.kept.length]? = some s.directory.snapshot) ∧
    ∀ (index : Nat) (snapshot : Snapshot), s.kept[index]? = some snapshot →
      ∀ us, (s.run us).1.kept[index]? = some snapshot := by
  -- each step keeps up with the history, and so does the run; the rest is about single steps
  intro s
  have hsalt : s.salt = salt := salt_run (fresh config salt) ts
  refine ⟨(reflects_fresh config salt).run ts, ?_, ?_, ?_, ?_, ?_, ?_, ?_⟩
  · intro source
    rw [← hsalt]
    exact loadEnds_of_step (step_load s source)
  · rw [← hsalt]
    exact loadEnds_of_step (step_reload s)
  · intro t h
    rw [directory_of_not_publishes h]
  · intro t publication h
    rw [← hsalt]
    exact snapshot_of_publishes h
  · -- a file that is there is read as the text that was written
    intro content modified h
    rw [step_reload, step_load, h, UsersFile.read_toUTF8]
  · exact kept_run_of_getElem? List.getElem?_concat_length
  · exact fun index snapshot h us => kept_run_of_getElem? h us

/-- Two entries are loaded at the third second and kept. A file that is no YAML cannot be loaded, and
the snapshot stays the same, with its time. The next version of the file is loaded as its text is, and
by the watch ten seconds after its start; the snapshot that was kept has not changed. -/
theorem run_fresh_reflects_write_hold :
    let config : Config := ⟨"dc=example,dc=org", "users.yaml", {}⟩
    let salt : Password.Salt := ⟨[1, 2, 3, 4], rfl⟩
    let two := "users: [\x7bdn: o=a, sn: x\x7d, \x7bdn: o=b\x7d]"
    let one := "users: [\x7bdn: o=c\x7d]"
    let first : Snapshot := ⟨[⟨"o=a", [⟨"sn", ["x"]⟩]⟩, ⟨"o=b", []⟩], 1, some 3⟩
    let before : List Step := [.tick 3, .load two, .hold, .tick 4, .write "users: [".toUTF8 5]
    let s := ((fresh config salt).run before).1
    let s' := ((fresh config salt).run (before ++ [.reload, .watch, .write one.toUTF8 6])).1
    (fresh config salt).published before = [⟨3, two⟩] ∧
      s.directory.snapshot = first ∧ s.directory.snapshot.generation = 1 ∧
      (s.step (.load two)).2 = .loaded (.ok 2) ∧
      (s.step .reload).2 = .loaded (.error .notYaml) ∧
      (s.step .reload).1.directory.snapshot = first ∧
      (s.step .config).1.directory.snapshot = first ∧
      s'.step .reload = s'.step (.load one) ∧
      (s'.step (.tick 25)).1.directory.snapshot = ⟨[⟨"o=c", []⟩], 2, some 17⟩ ∧
      ((s.step .hold).1.run [.reload, .tick 9, .load one]).1.kept[1]? = some first ∧
      (s'.run [.reload, .hold, .tick 25]).1.kept[0]? = some first := by
  intro config salt two one first before s s'
  obtain ⟨hreflects, hload, hreload, hidle, -, -, hhold, -⟩ := run_fresh_reflects config salt before
  obtain ⟨-, -, -, -, hpublishes, hfile, -, hkept⟩ :=
    run_fresh_reflects config salt (before ++ [.reload, .watch, .write one.toUTF8 6])
  have hhistory : (fresh config salt).published before = [⟨3, two⟩] := by decide +kernel
  have hfirst : s.directory.snapshot = first := by decide +kernel
  -- what the texts hold
  have htwo : Users.loadText salt two = .ok first.entries :=
    Users.toOption_eq_some_iff.mp (by decide +kernel)
  have hone : Users.loadText salt one = .ok [⟨"o=c", []⟩] :=
    Users.toOption_eq_some_iff.mp (by decide +kernel)
  have hbroken : Users.loadRead salt s.file.read = .error .notYaml := by
    have hyaml : Yaml.valueOf? "users: [" = none := Option.isNone_iff_eq_none.mp (by decide +kernel)
    rw [show s.file = .file "users: [".toUTF8 5 from rfl, UsersFile.read_toUTF8]
    simp only [Users.loadRead, Users.loadText, hyaml]
  refine ⟨hhistory, hfirst, ?_, ?_, ?_, ?_, ?_, ?_, ?_, ?_, ?_⟩
  · rw [hreflects.generation_eq, hhistory]
    rfl
  · rw [(hload two).answer_eq, htwo]
    rfl
  · rw [hreload.answer_eq, hbroken]
    rfl
  · rw [hreload.snapshot_of_error _ hbroken, hfirst]
  · rw [hidle .config rfl, hfirst]
  · exact hfile one 6 rfl
  · obtain ⟨entries, hentries, hsnapshot⟩ :=
      hpublishes (.tick 25) ⟨17, one⟩ (by decide +kernel)
    have hgeneration : s'.directory.snapshot.generation = 1 := by decide +kernel
    rw [hone] at hentries
    cases hentries
    rw [hsnapshot, hgeneration]
  · have hlength : s.kept.length = 1 := by decide +kernel
    rw [← hlength, hhold, hfirst]
  · exact hkept 0 first (by decide +kernel) _

end Session

end UserDirectory
