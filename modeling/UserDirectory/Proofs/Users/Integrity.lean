import UserDirectory.Proofs.Password.Verification
import UserDirectory.Proofs.Session.Loading
import UserDirectory.Proofs.Users.Records

/-!
# UserDirectory — what loaded entries have in common

Whatever a users document says, the entries that are loaded from it have names of their own, do not
repeat their names among their attributes, and hold passwords in encoded form only, under any
spelling of `userPassword`. To gather the attributes for a client brings spellings of one name
together and no others, so it keeps the passwords encoded.

## Results

* `Snapshot.sound_of_loadRead` — loaded entries make a sound snapshot.
* `encoded_toSearchEntry`      — the form for clients has no plain password that the entry has not.
-/

namespace UserDirectory

open Text Password

/-- Whether an attribute has no plain password among its values: if its name is a spelling of
`userPassword`, then all of them carry the tag of encoded passwords. -/
def Attribute.Encoded (a : Attribute) : Prop :=
  lowerCase a.name = lowerCase Users.passwordAttribute → ∀ value ∈ a.values,
    schemeTag <+: value.toList

/-- A snapshot as it ought to be, whatever was loaded. -/
structure Snapshot.Sound (s : Snapshot) : Prop where
  /-- No two entries have the same name. -/
  nodup_names : (s.entries.map (·.dn)).Nodup
  /-- The name of an entry is not stored among its attributes. -/
  name_ne_dn : ∀ e ∈ s.entries, ∀ a ∈ e.attributes, a.name ≠ "dn"
  /-- There are no plain passwords. -/
  encoded : ∀ e ∈ s.entries, ∀ a ∈ e.attributes, a.Encoded

-- ---------------------------------------------------------------------------
-- Loaded entries
-- ---------------------------------------------------------------------------

/-- What is stored for a password is encoded. -/
theorem Password.schemeTag_prefix_of_ingest {salt : Salt} {value stored : String}
    (h : ingest salt value = .ok stored) : schemeTag <+: stored.toList := by
  rcases ingest_eq_ok_iff.mp h with ⟨htag, rfl⟩ | ⟨-, rfl⟩
  · exact htag
  · rw [toList_encode]
    exact List.prefix_append _ _

namespace Users

/-- The name of an entry does not become an attribute of it. -/
theorem name_ne_dn_of_attributeOf? {salt : Salt} {key value : Yaml.Value} {a : Attribute}
    (h : attributeOf? salt key value = some a) : a.name ≠ "dn" := by
  obtain ⟨name, values, -, hne, -, rfl⟩ := attributeOf?_eq_some_iff.mp h
  exact hne

/-- An attribute of a record holds no plain passwords. -/
theorem encoded_of_attributeOf? {salt : Salt} {key value : Yaml.Value} {a : Attribute}
    (h : attributeOf? salt key value = some a) : a.Encoded := by
  intro hname stored hstored
  have hpassword : sameName a.name passwordAttribute = true := by
    rw [sameName, beq_iff_eq]
    exact hname
  obtain ⟨name, values, -, -, -, rfl⟩ := attributeOf?_password_iff.mp ⟨h, hpassword⟩
  obtain ⟨text, -, hok⟩ := mem_storedPasswords_iff.mp hstored
  exact schemeTag_prefix_of_ingest hok

/-- The first entries of each name have names of their own. -/
theorem nodup_firstOfEachName (es : List Entry) : ((firstOfEachName es).map (·.dn)).Nodup := by
  induction es with
  | nil => exact List.nodup_nil
  | cons e es ih =>
    rw [firstOfEachName, List.map_cons, List.nodup_cons]
    refine ⟨?_, ?_⟩
    · intro hmem
      obtain ⟨e', he', hname⟩ := List.mem_map.mp hmem
      have hne := (List.mem_filter.mp he').2
      rw [bne_iff_ne] at hne
      exact hne hname
    · exact ih.sublist (List.filter_sublist.map _)

/-- The first entries of each name are some of the entries. -/
theorem mem_of_mem_firstOfEachName {es : List Entry} {e : Entry} (h : e ∈ firstOfEachName es) :
    e ∈ es := by
  induction es with
  | nil => exact h
  | cons e' es ih =>
    rw [firstOfEachName, List.mem_cons, List.mem_filter] at h
    rcases h with rfl | ⟨h, -⟩
    · exact List.mem_cons_self
    · exact List.mem_cons_of_mem e' (ih h)

/-- An entry that is loaded comes from a record. -/
theorem exists_entryOf?_of_mem {salt : Salt} {records : List Yaml.Value} {e : Entry}
    (he : e ∈ entriesOf salt records) : ∃ record ∈ records, entryOf? salt record = some e :=
  List.mem_filterMap.mp (mem_of_mem_firstOfEachName he)

/-- An attribute of a loaded entry comes from a member of its record. -/
theorem exists_attributeOf?_of_mem {salt : Salt} {records : List Yaml.Value} {e : Entry}
    {a : Attribute} (he : e ∈ entriesOf salt records) (ha : a ∈ e.attributes) :
    ∃ key value, attributeOf? salt key value = some a := by
  obtain ⟨record, -, hentry⟩ := exists_entryOf?_of_mem he
  obtain ⟨members, -, -, hattributes⟩ := entryOf?_eq_some_iff.mp hentry
  rw [hattributes] at ha
  obtain ⟨⟨key, value⟩, -, hattribute⟩ := List.mem_filterMap.mp ha
  exact ⟨key, value, hattribute⟩

/-- Whatever is loaded comes from some records. -/
theorem exists_entriesOf_of_loadRead {salt : Salt} {source : Except FileError String}
    {entries : List Entry} (h : loadRead salt source = .ok entries) :
    ∃ records, entries = entriesOf salt records := by
  cases source with
  | error cause => simp [loadRead] at h
  | ok source =>
    rw [loadRead, loadText] at h
    split at h
    · contradiction
    · next document _ =>
      cases hload : load salt document with
      | error e =>
        rw [hload] at h
        contradiction
      | ok es =>
        rw [hload] at h
        cases h
        obtain ⟨records, -, hentries⟩ := load_eq_ok_iff.mp hload
        exact ⟨records, hentries⟩

end Users

/-- The entries of any records make a sound snapshot. -/
theorem Snapshot.sound_of_entries_eq {salt : Salt} {records : List Yaml.Value} {s : Snapshot}
    (h : s.entries = Users.entriesOf salt records) : s.Sound := by
  refine ⟨?_, ?_, ?_⟩
  · rw [h]
    exact Users.nodup_firstOfEachName _
  · intro e he a ha
    rw [h] at he
    obtain ⟨key, value, hattribute⟩ := Users.exists_attributeOf?_of_mem he ha
    exact Users.name_ne_dn_of_attributeOf? hattribute
  · intro e he a ha
    rw [h] at he
    obtain ⟨key, value, hattribute⟩ := Users.exists_attributeOf?_of_mem he ha
    exact Users.encoded_of_attributeOf? hattribute

theorem Snapshot.sound_of_loadRead {salt : Salt} {source : Except FileError String} {s : Snapshot}
    (h : Users.loadRead salt source = .ok s.entries) : s.Sound := by
  obtain ⟨records, hentries⟩ := Users.exists_entriesOf_of_loadRead h
  exact sound_of_entries_eq hentries

theorem Snapshot.sound_empty : ({} : Snapshot).Sound where
  nodup_names := List.nodup_nil
  name_ne_dn _ he := absurd he List.not_mem_nil
  encoded _ he := absurd he List.not_mem_nil

-- ---------------------------------------------------------------------------
-- The form for clients
-- ---------------------------------------------------------------------------

/-- Values come together only with others of the same name. -/
theorem encoded_of_mem_gather {a : Attribute} {gathered : List Attribute} (ha : a.Encoded)
    (hall : ∀ b ∈ gathered, b.Encoded) : ∀ b ∈ gather a gathered, b.Encoded := by
  induction gathered with
  | nil =>
    intro b hb
    rw [gather, List.mem_singleton] at hb
    rw [hb]
    exact ha
  | cons c cs ih =>
    have hc := hall c List.mem_cons_self
    have hcs : ∀ b ∈ cs, b.Encoded := fun b hb => hall b (List.mem_cons_of_mem c hb)
    intro b hb
    rw [gather] at hb
    split at hb
    · next hsame =>
      rw [sameName, beq_iff_eq] at hsame
      rcases List.mem_cons.mp hb with rfl | hb
      -- the values of both are under one name, and both are encoded
      · intro hname value hvalue
        rcases List.mem_append.mp hvalue with hvalue | hvalue
        · exact hc hname value hvalue
        · exact ha (hsame.symm.trans hname) value hvalue
      · exact hcs b hb
    · rcases List.mem_cons.mp hb with rfl | hb
      · exact hc
      · exact ih hcs b hb

/-- To gather encoded attributes, one after the other, keeps all of them encoded. -/
theorem encoded_foldl_gather {attributes gathered : List Attribute}
    (hattributes : ∀ a ∈ attributes, a.Encoded) (hgathered : ∀ b ∈ gathered, b.Encoded) :
    ∀ b ∈ attributes.foldl (fun gathered a => gather a gathered) gathered, b.Encoded := by
  induction attributes generalizing gathered with
  | nil => exact hgathered
  | cons a attributes ih =>
    have ha := hattributes a List.mem_cons_self
    refine ih ?_ (encoded_of_mem_gather ha hgathered)
    exact fun b hb => hattributes b (List.mem_cons_of_mem a hb)

/-- The form for clients has no plain password that the entry has not. -/
theorem encoded_toSearchEntry {e : Entry} (h : ∀ a ∈ e.attributes, a.Encoded) :
    ∀ a ∈ e.toSearchEntry.attributes, a.Encoded :=
  encoded_foldl_gather h fun _ hb => absurd hb List.not_mem_nil

end UserDirectory
