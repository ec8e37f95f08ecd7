import UserDirectory.Proofs.Password.Verification
import UserDirectory.Proofs.Session.Loading
import UserDirectory.Proofs.Users.Records

/-!
# UserDirectory — who can bind

From a users document to the answer of a bind. Whether somebody can bind depends on the passwords of
one record: the first one of that name. The entry in between has lost the spelling of the keys and
holds plain passwords in encoded form only, but it accepts those whom the record admits.

## Results

* `Snapshot.bind_eq_success_iff` — whom the entries of some records let in.
* `Directory.bind_of_load`       — whom a directory lets in that has loaded a users document.
-/

namespace UserDirectory

open Users Password

/-- The records of the users document with the given text, if it is one. -/
def Users.recordsAt? (source : String) : Option (List Yaml.Value) :=
  (Yaml.valueOf? source).bind fun document => (recordsOf document).toOption

-- ---------------------------------------------------------------------------
-- The answer for some records
-- ---------------------------------------------------------------------------

/-- A load succeeds if the text has records, and then publishes the entries that they describe. -/
theorem Directory.load_eq_ok_iff {salt : Salt} {now : Nat} {d d' : Directory} {source : String} :
    d.load salt now source = .ok d' ↔
      ∃ records, recordsAt? source = some records ∧
        d' = d.publish now (entriesOf salt records) := by
  unfold Directory.load Users.load recordsAt?
  cases Yaml.valueOf? source with
  | none => simp
  | some document =>
    cases hr : recordsOf document with
    | error e => simp [hr, Except.map, Except.toOption]
    | ok records => simp [hr, Except.map, Except.toOption, Directory.publish, eq_comm]

namespace Snapshot

theorem bind_eq_success_iff_exists_entry {s : Snapshot} {dn password : String} :
    s.bind dn password = .success ↔
      ∃ e, s.entries.find? (·.dn == dn) = some e ∧
        ∃ stored ∈ e.values passwordAttribute, verifies stored password = true := by
  unfold bind
  cases s.entries.find? (·.dn == dn) with
  | none => simp
  | some e => simp

/-- Whom the entries of some records let in: those whom some password of the first record of that
name admits. -/
theorem bind_eq_success_iff {s : Snapshot} {salt : Salt} {records : List Yaml.Value}
    (h : s.entries = entriesOf salt records) (dn password : String) :
    s.bind dn password = .success ↔
      ∃ record, firstNamed? records dn = some record ∧
        ∃ text, HasPassword record text ∧ Admits salt text password := by
  -- from the entry back to the record that it was made of
  rw [bind_eq_success_iff_exists_entry, h, find?_entriesOf]
  constructor
  · rintro ⟨e, he, stored, hmem, hverifies⟩
    obtain ⟨record, hfirst, hentry⟩ := Option.bind_eq_some_iff.mp he
    obtain ⟨text, hhas, hok⟩ := (mem_values_password_iff hentry).mp hmem
    exact ⟨record, hfirst, text, hhas, exists_ingest_iff.mp ⟨stored, hok, hverifies⟩⟩
  · rintro ⟨record, hfirst, text, hhas, hadmits⟩
    obtain ⟨e, hentry, -⟩ := exists_entryOf?_of_dnOf? salt (dnOf?_of_firstNamed? hfirst)
    obtain ⟨stored, hok, hverifies⟩ := exists_ingest_iff.mpr hadmits
    have hmem := (mem_values_password_iff hentry).mpr ⟨text, hhas, hok⟩
    refine ⟨e, ?_, stored, hmem, hverifies⟩
    rw [hfirst]
    exact hentry

theorem bind_eq_invalidCredentials_iff {s : Snapshot} {dn password : String} :
    s.bind dn password = .invalidCredentials ↔ ¬ s.bind dn password = .success := by
  cases s.bind dn password <;> simp

theorem bind_eq_bind_of_iff {s t : Snapshot} {dn password : String}
    (h : s.bind dn password = .success ↔ t.bind dn password = .success) :
    s.bind dn password = t.bind dn password := by
  cases ht : t.bind dn password with
  | success => exact h.mpr ht
  | invalidCredentials =>
    rw [bind_eq_invalidCredentials_iff] at ht ⊢
    exact fun hs => ht (h.mp hs)

end Snapshot

-- ---------------------------------------------------------------------------
-- The answer after a load
-- ---------------------------------------------------------------------------

/-- A directory that has loaded a users document lets in whom the first record of that name admits.
So each of its plain passwords lets in, a record that has none but passwords with an unknown tag
lets nobody in, and no other record of the document counts, be it before or after the first one of
that name. -/
theorem Directory.bind_of_load {salt : Salt} {now : Nat} {d d' : Directory} {source : String}
    (h : d.load salt now source = .ok d') (dn : String) :
    ∃ records, recordsAt? source = some records ∧
      (∀ password, d'.snapshot.bind dn password = .success ↔
        ∃ record, firstNamed? records dn = some record ∧
          ∃ text, HasPassword record text ∧ Admits salt text password) ∧
      (∀ record text, firstNamed? records dn = some record → HasPassword record text →
        text.toList.head? ≠ some '\x7b' → d'.snapshot.bind dn text = .success) ∧
      (∀ record, firstNamed? records dn = some record →
        (∀ text, HasPassword record text → IsForeign text) →
        ∀ password, d'.snapshot.bind dn password = .invalidCredentials) ∧
      ∀ (now' : Nat) (e e' : Directory) (source' : String) (records' : List Yaml.Value),
        e.load salt now' source' = .ok e' → recordsAt? source' = some records' →
        firstNamed? records' dn = firstNamed? records dn →
        ∀ password, e'.snapshot.bind dn password = d'.snapshot.bind dn password := by
  obtain ⟨records, hrecords, rfl⟩ := Directory.load_eq_ok_iff.mp h
  have hentries : (d.publish now (entriesOf salt records)).snapshot.entries =
      entriesOf salt records := rfl
  -- all that is said of the passwords follows from this one equivalence
  have hbind := Snapshot.bind_eq_success_iff hentries dn
  refine ⟨records, hrecords, hbind, ?_, ?_, ?_⟩
  · intro record text hfirst hhas hplain
    exact (hbind text).mpr ⟨record, hfirst, text, hhas, admits_self hplain⟩
  · intro record hfirst hforeign password
    rw [Snapshot.bind_eq_invalidCredentials_iff, hbind]
    rintro ⟨record', hfirst', text, hhas, hadmits⟩
    rw [hfirst] at hfirst'
    cases hfirst'
    exact (hforeign text hhas).not_admits hadmits
  · intro now' e e' source' records' h' hrecords' hsame password
    obtain ⟨records'', hrecords'', rfl⟩ := Directory.load_eq_ok_iff.mp h'
    rw [hrecords'] at hrecords''
    cases hrecords''
    -- an answer is one of two, so that equal successes are equal answers
    apply Snapshot.bind_eq_bind_of_iff
    rw [hbind, ← hsame]
    exact Snapshot.bind_eq_success_iff rfl dn password

/-- The second record with the name does not count. -/
theorem Directory.bind_of_load_repeated_name :
    let d : Directory := { config := ⟨"dc=example,dc=org", "users.yaml", {}⟩ }
    let salt : Salt := ⟨[1, 2, 3, 4], rfl⟩
    let source := "users:\n- dn: a\n  userPassword: b\n- dn: a\n  userPassword: c\n"
    ∃ d', d.load salt 0 source = .ok d' ∧ d'.snapshot.bind "a" "b" = .success ∧
      d'.snapshot.bind "a" "c" = .invalidCredentials := by
  intro d salt source
  have hloads : (d.load salt 0 source).isOk = true := by decide +kernel
  obtain ⟨d', h⟩ := isOk_iff.mp hloads
  obtain ⟨records, hrecords, hbind, hplain, -⟩ := bind_of_load h "a"
  have hpasswords :
      ((recordsAt? source).bind (firstNamed? · "a")).map passwordsOf = some ["b"] := by
    decide +kernel
  rw [hrecords, Option.map_eq_some_iff] at hpasswords
  obtain ⟨record, hfirst, hrecord⟩ := hpasswords
  have hhas : ∀ text, HasPassword record text ↔ text = "b" := by
    intro text
    rw [hasPassword_iff, hrecord, List.mem_singleton]
  refine ⟨d', h, hplain record "b" hfirst ((hhas "b").mpr rfl) (by decide), ?_⟩
  rw [Snapshot.bind_eq_invalidCredentials_iff, hbind]
  rintro ⟨record', hfirst', text, htext, hadmits⟩
  rw [show firstNamed? records "a" = some record from hfirst] at hfirst'
  cases hfirst'
  rw [(hhas text).mp htext] at hadmits
  revert hadmits
  unfold Admits
  decide +kernel

end UserDirectory
