import UserDirectory.Proofs.Service.Confinement
import UserDirectory.Proofs.Session.History
import UserDirectory.Proofs.Users.Integrity

/-!
# UserDirectory — no plain password gets out

Whatever a session loads, and in whichever way, every snapshot that it publishes is sound: names are
different, and passwords are encoded. What a client gets to see are attributes of such snapshots, as
they are or gathered by name, so no answer has a plain password in it.

## Results

* `Session.Sound.step`       — a step keeps all snapshots of a session sound.
* `Session.Sound.answer`     — its answer shows encoded passwords only.
* `Session.run_fresh_sound`  — so it is in every run from the start.
-/

namespace UserDirectory

open Text Password

/-- The attributes that an answer shows. -/
def Answer.attributes : Answer → List Attribute
  | .found (.ok entries) => entries.flatMap (·.attributes)
  | .clientFound answer => answer.entries.flatMap (·.attributes)
  | .snapshot s => s.entries.flatMap (·.attributes)
  | .held (some s) => s.entries.flatMap (·.attributes)
  | _ => []

theorem Snapshot.Sound.encoded_flatMap {s : Snapshot} (h : s.Sound) {entries : List Entry}
    (hsub : ∀ e ∈ entries, e ∈ s.entries) : ∀ a ∈ entries.flatMap (·.attributes), a.Encoded := by
  intro a ha
  obtain ⟨e, he, ha⟩ := List.mem_flatMap.mp ha
  exact h.encoded e (hsub e he) a ha

namespace Session

/-- All snapshots at hand are sound: the present one and those that were kept. -/
structure Sound (s : Session) : Prop where
  snapshot : s.directory.snapshot.Sound
  kept : ∀ k ∈ s.kept, k.Sound

-- ---------------------------------------------------------------------------
-- One step
-- ---------------------------------------------------------------------------

/-- An attempt to load leaves a sound snapshot: the one that was there, or one of loaded entries. -/
theorem Sound.attempt {s : Session} (h : s.Sound) (a : Attempt) :
    (s.directory.attempt s.salt a).snapshot.Sound := by
  cases hr : Users.loadRead s.salt a.source with
  | error e =>
    rw [Directory.attempt_of_error _ hr]
    exact h.snapshot
  | ok entries =>
    rw [Directory.attempt_of_ok _ hr]
    exact Snapshot.sound_of_loadRead hr

/-- A step keeps all snapshots sound. -/
theorem Sound.step {s : Session} (h : s.Sound) (t : Step) : (s.step t).1.Sound := by
  refine ⟨?_, ?_⟩
  · rw [step_directory]
    split
    · exact h.snapshot
    · next a _ => exact h.attempt a
  · by_cases ht : t = .hold
    · subst ht
      intro k hk
      rcases List.mem_append.mp hk with hk | hk
      · exact h.kept k hk
      · rw [List.mem_singleton.mp hk]
        exact h.snapshot
    · rw [kept_step_of_ne_hold s ht]
      exact h.kept

/-- A load answers with a number or an error. -/
theorem attributes_loadFrom (s : Session) (source : Except FileError String) :
    (s.loadFrom source).2.attributes = [] :=
  rfl

/-- An answer has no plain password in it. -/
theorem Sound.answer {s : Session} (h : s.Sound) (t : Step) :
    ∀ a ∈ (s.step t).2.attributes, a.Encoded := by
  -- a load answers with a number or an error; the other answers show entries of the current
  -- snapshot or of a kept one
  cases t with
  | load source =>
    rw [step_load, attributes_loadFrom]
    exact fun a ha => absurd ha List.not_mem_nil
  | reload =>
    rw [step_reload, attributes_loadFrom]
    exact fun a ha => absurd ha List.not_mem_nil
  | search filter => exact h.snapshot.encoded_flatMap fun e he => (List.mem_filter.mp he).1
  | query text =>
    show ∀ a ∈ (Answer.found (s.directory.snapshot.query text)).attributes, a.Encoded
    rw [Snapshot.query]
    cases Filter.parse text with
    | error e => exact fun a ha => absurd ha List.not_mem_nil
    | ok filter => exact h.snapshot.encoded_flatMap fun e he => (List.mem_filter.mp he).1
  | clientSearch request =>
    intro a ha
    obtain ⟨e, he, ha⟩ := List.mem_flatMap.mp ha
    obtain ⟨e', he', rfl, -⟩ := Directory.exists_of_mem_entries he
    exact encoded_toSearchEntry (h.snapshot.encoded e' he') a ha
  | snapshot => exact h.snapshot.encoded_flatMap fun e he => he
  | held index =>
    show ∀ a ∈ (Answer.held s.kept[index]?).attributes, a.Encoded
    cases hk : s.kept[index]? with
    | none => exact fun a ha => absurd ha List.not_mem_nil
    | some k => exact (h.kept k (List.mem_of_getElem? hk)).encoded_flatMap fun e he => he
  | _ => exact fun a ha => absurd ha List.not_mem_nil

-- ---------------------------------------------------------------------------
-- Runs
-- ---------------------------------------------------------------------------

theorem Sound.run {s : Session} (h : s.Sound) (ts : List Step) : (s.run ts).1.Sound :=
  run_of_step (fun _ t hreached => hreached.step t) h ts

theorem sound_fresh (config : Config) (salt : Password.Salt) : (fresh config salt).Sound where
  snapshot := Snapshot.sound_empty
  kept _ hk := absurd hk List.not_mem_nil

/-- Every snapshot that a run from the start publishes is sound: its entries have names of their
own, which are not stored among their attributes, and the values under any spelling of
`userPassword` are encoded. So are all that an answer shows under any spelling of it. -/
theorem run_fresh_sound (config : Config) (salt : Password.Salt) (ts : List Step) :
    ((fresh config salt).run ts).1.directory.snapshot.Sound ∧
      ∀ answer ∈ ((fresh config salt).run ts).2, ∀ a ∈ answer.attributes, a.Encoded := by
  have hfresh := sound_fresh config salt
  refine ⟨(hfresh.run ts).snapshot, ?_⟩
  intro answer hanswer
  obtain ⟨before, t, -, -, rfl⟩ := exists_of_mem_run hanswer
  exact (hfresh.run before).answer t

/-- A client is shown the encoded form of a plain password that was loaded under another spelling,
and nothing of a password with a foreign tag. -/
theorem run_fresh_sound_spelling :
    let salt : Salt := ⟨[1, 2, 3, 4], rfl⟩
    let source := "users:\n- dn: o=a\n  USERPASSWORD: [b, '\x7bMD5\x7dc']\n"
    let ts : List Step := [.load source, .clientSearch ⟨"", "o=a", "(!(sn=*))"⟩]
    let shown : Attribute := ⟨"USERPASSWORD", [encode salt "b"]⟩
    ∃ answer ∈ ((fresh ⟨"o=a", "users.yaml", {}⟩ salt).run ts).2,
      shown ∈ answer.attributes ∧ lowerCase shown.name = lowerCase Users.passwordAttribute ∧
        ∀ value ∈ shown.values, schemeTag <+: value.toList := by
  intro salt source ts shown
  have hshown : shown ∈ ((fresh ⟨"o=a", "users.yaml", {}⟩ salt).run ts).2.flatMap
      (·.attributes) := by decide +kernel
  have hname : lowerCase shown.name = lowerCase Users.passwordAttribute := by decide +kernel
  obtain ⟨answer, hanswer, hmem⟩ := List.mem_flatMap.mp hshown
  obtain ⟨-, hencoded⟩ := run_fresh_sound ⟨"o=a", "users.yaml", {}⟩ salt ts
  exact ⟨answer, hanswer, hmem, hname, hencoded answer hanswer shown hmem hname⟩

end Session

end UserDirectory
