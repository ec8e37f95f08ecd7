import UserDirectory.Proofs.Bind
import UserDirectory.Proofs.Users.Integrity
import UserDirectory.Proofs.Yaml.Distinct

/-!
# UserDirectory — writing entries back

Entries can be written as a users document again: for each entry a record with its name under `dn`
and with a list of values under the name of each attribute. To load that document gives the same
entries. In particular passwords stay what they are, as they are encoded already, and attributes do
not come together that differ in the spelling of their names only.

This holds of all entries that a load can give (`Users.Producible`), if no key in a record has a tag
of its own. Such a key counts as the text behind the tag, but for a mapping it is another key than
that text, so that a record may give two attributes of one name.

## Results

* `Users.producible_iff`      — which entries can be written and loaded.
* `Users.producible_of_load`  — which entries a load gives.
* `Directory.load_documentOf` — both, and what it means for a directory.
-/

namespace UserDirectory

open Text Password Yaml Users

namespace Users

/-- The record that describes an entry. -/
def recordOf (e : Entry) : Value :=
  .mapping ((.text "dn", .text e.dn) ::
    e.attributes.map fun a => (.text a.name, .sequence (a.values.map .text)))

/-- The users document that describes the entries. -/
def documentOf (es : List Entry) : Value :=
  .mapping [(.text "users", .sequence (es.map recordOf))]

/-- Whether the entries are as a load may give them: they make a sound snapshot, and no entry has
two attributes whose names are spelled the same. -/
structure Producible (es : List Entry) : Prop extends Snapshot.Sound { entries := es } where
  nodup_attributes : ∀ e ∈ es, (e.attributes.map (·.name)).Nodup

/-- Whether the value has a tag of the author's own. -/
def isTagged : Value → Bool
  | .tagged _ _ => true
  | _ => false

/-- Whether no record of a users document has a key with a tag of the author's own. -/
def UntaggedKeys (document : Value) : Prop :=
  ∀ record ∈ (recordsOf document).toOption.getD [], ∀ m ∈ record.members?.getD [],
    isTagged m.1 = false

instance (document : Value) : Decidable (UntaggedKeys document) :=
  inferInstanceAs (Decidable (∀ record ∈ (recordsOf document).toOption.getD [],
    ∀ m ∈ record.members?.getD [], isTagged m.1 = false))

-- ---------------------------------------------------------------------------
-- Written entries
-- ---------------------------------------------------------------------------

/-- What keeps each item of a list keeps the list. -/
theorem filterMap_eq_self {α : Type} {f : α → Option α} {xs : List α}
    (h : ∀ x ∈ xs, f x = some x) : xs.filterMap f = xs := by
  induction xs with
  | nil => rfl
  | cons x xs ih =>
    obtain ⟨hx, hxs⟩ := List.forall_mem_cons.mp h
    rw [List.filterMap_cons_some hx, ih hxs]

theorem storedPasswords_eq_self {salt : Salt} {values : List String}
    (h : ∀ value ∈ values, schemeTag <+: value.toList) : storedPasswords salt values = values := by
  refine filterMap_eq_self fun value hvalue => ?_
  rw [toOption_eq_some_iff, ingest_eq_ok_iff]
  exact .inl ⟨h value hvalue, rfl⟩

theorem valuesOf?_texts (values : List String) :
    valuesOf? (.sequence (values.map .text)) = some values := by
  rw [valuesOf?, List.filterMap_map,
    filterMap_eq_self (f := scalarText? ∘ Value.text) fun _ _ => rfl]

/-- An attribute without plain passwords is loaded as it was written. -/
theorem attributeOf?_of_encoded {a : Attribute} (salt : Salt) (hname : a.name ≠ "dn")
    (hencoded : a.Encoded) :
    attributeOf? salt (.text a.name) (.sequence (a.values.map .text)) = some a := by
  have hvalues :
      (if sameName a.name passwordAttribute then storedPasswords salt a.values else a.values) =
        a.values := by
    split
    · next hsame =>
      rw [sameName, beq_iff_eq] at hsame
      exact storedPasswords_eq_self (hencoded hsame)
    · rfl
  rw [attributeOf?_eq_some_iff]
  exact ⟨a.name, a.values, rfl, hname, valuesOf?_texts a.values, by rw [hvalues]⟩

/-- An entry without plain passwords is loaded as it was written. -/
theorem entryOf?_recordOf {e : Entry} (salt : Salt) (hname : ∀ a ∈ e.attributes, a.name ≠ "dn")
    (hencoded : ∀ a ∈ e.attributes, a.Encoded) : entryOf? salt (recordOf e) = some e := by
  rw [entryOf?_eq_some_iff]
  refine ⟨_, rfl, rfl, ?_⟩
  -- the name is no attribute
  rw [List.filterMap_cons_none rfl, List.filterMap_map]
  refine (filterMap_eq_self fun a ha => ?_).symm
  exact attributeOf?_of_encoded salt (hname a ha) (hencoded a ha)

/-- Entries with names of their own are all kept. -/
theorem firstOfEachName_eq_self {es : List Entry} (h : (es.map (·.dn)).Nodup) :
    firstOfEachName es = es := by
  induction es with
  | nil => rfl
  | cons e es ih =>
    rw [List.map_cons, List.nodup_cons] at h
    rw [firstOfEachName, ih h.2, List.filter_eq_self.mpr]
    intro e' he'
    rw [bne_iff_ne]
    exact fun heq => h.1 (heq ▸ List.mem_map_of_mem he')

theorem recordsOf_documentOf (es : List Entry) :
    recordsOf (documentOf es) = .ok (es.map recordOf) := rfl

/-- Entries that were written are loaded as they were. -/
theorem load_documentOf_of_sound {es : List Entry} (salt : Salt)
    (h : Snapshot.Sound { entries := es }) : load salt (documentOf es) = .ok es := by
  have hentries : entriesOf salt (es.map recordOf) = es := by
    rw [entriesOf, List.filterMap_map, filterMap_eq_self (f := entryOf? salt ∘ recordOf)]
    · exact firstOfEachName_eq_self h.nodup_names
    · exact fun e he => entryOf?_recordOf salt (h.name_ne_dn e he) (h.encoded e he)
  rw [load, recordsOf_documentOf, Except.map, hentries]

/-- A record that was written has no key twice if no attribute is spelled like another one or like
`dn`. -/
theorem distinctKeys_recordOf_iff {e : Entry} :
    (recordOf e).DistinctKeys ↔
      (e.attributes.map (·.name)).Nodup ∧ ∀ a ∈ e.attributes, a.name ≠ "dn" := by
  have hsame : ∀ s t : String, (Value.text s).same (.text t) = false ↔ s ≠ t := by
    intro s t
    rw [Value.same, beq_eq_false_iff_ne]
  -- the keys are the texts `dn` and the names of the attributes
  have hpairs : (((Value.text "dn", Value.text e.dn) :: e.attributes.map fun a =>
        (Value.text a.name, Value.sequence (a.values.map .text))).Pairwise fun m m' =>
          m.1.same m'.1 = false) ↔
      (e.attributes.map (·.name)).Nodup ∧ ∀ a ∈ e.attributes, a.name ≠ "dn" := by
    rw [List.pairwise_cons, List.pairwise_map, List.nodup_iff_pairwise_ne, List.pairwise_map,
      List.forall_mem_map, and_comm]
    simp only [hsame, ne_comm]
  constructor
  · intro h
    exact hpairs.mp (h.members rfl).1
  · intro h
    refine .mapping (hpairs.mpr h) ?_ ?_
    · simp only [List.forall_mem_cons, List.forall_mem_map]
      exact ⟨.text _, fun a _ => .text _⟩
    · simp only [List.forall_mem_cons, List.forall_mem_map]
      refine ⟨.text _, fun a _ => .sequence ?_⟩
      rw [List.forall_mem_map]
      exact fun v _ => .text v

/-- A document that was written has no key twice if no record has. -/
theorem distinctKeys_documentOf_iff {es : List Entry} :
    (documentOf es).DistinctKeys ↔ ∀ e ∈ es, (recordOf e).DistinctKeys := by
  constructor
  · intro h
    have hrecords : (Value.sequence (es.map recordOf)).DistinctKeys :=
      (h.members rfl).2 _ List.mem_cons_self
    exact List.forall_mem_map.mp (hrecords.items rfl)
  · intro h
    refine .mapping (List.pairwise_singleton _ _) ?_ ?_
    · rw [List.forall_mem_singleton]
      exact .text _
    · rw [List.forall_mem_singleton]
      exact .sequence (List.forall_mem_map.mpr h)

-- ---------------------------------------------------------------------------
-- Loaded entries
-- ---------------------------------------------------------------------------

/-- The records of a document without repeated keys have none either. -/
theorem distinctKeys_of_mem_recordsOf {document : Value} {records : List Value}
    (hdocument : document.DistinctKeys) (hrecords : recordsOf document = .ok records) :
    ∀ record ∈ records, record.DistinctKeys := by
  rw [recordsOf] at hrecords
  split at hrecords
  · contradiction
  · next users hfind =>
    split at hrecords
    · contradiction
    · next items hitems =>
      cases hrecords
      obtain ⟨members, hmembers, hlookup⟩ := Option.bind_eq_some_iff.mp hfind
      obtain ⟨m, hm, rfl⟩ := Option.map_eq_some_iff.mp hlookup
      have husers := (hdocument.members hmembers).2 m (List.mem_of_find?_eq_some hm)
      exact husers.items hitems

/-- A key without tag that is a text is the key of that text. -/
theorem eq_text_of_not_isTagged {key : Value} {name : String} (h : isTagged key = false)
    (htext : key.text? = some name) : key = .text name := by
  cases key with
  | text s => rw [← Option.some.inj htext]
  | tagged tag value => contradiction
  | _ => contradiction

/-- Keys that differ give attributes whose names differ. -/
theorem nodup_attributes_of_entryOf? {salt : Salt} {record : Value} {e : Entry}
    (hdistinct : record.DistinctKeys)
    (huntagged : ∀ m ∈ record.members?.getD [], isTagged m.1 = false)
    (he : entryOf? salt record = some e) : (e.attributes.map (·.name)).Nodup := by
  obtain ⟨members, hmembers, -, hattributes⟩ := entryOf?_eq_some_iff.mp he
  rw [hmembers, Option.getD_some] at huntagged
  rw [hattributes, List.nodup_iff_pairwise_ne, List.pairwise_map, List.pairwise_filterMap]
  refine (hdistinct.members hmembers).1.imp_of_mem ?_
  intro m m' hm hm' hne a ha a' ha' hname
  obtain ⟨name, values, hkey, -, -, rfl⟩ := attributeOf?_eq_some_iff.mp ha
  obtain ⟨name', values', hkey', -, -, rfl⟩ := attributeOf?_eq_some_iff.mp ha'
  have hsame : name = name' := hname
  rw [eq_text_of_not_isTagged (huntagged m hm) hkey,
    eq_text_of_not_isTagged (huntagged m' hm') hkey', hsame, Value.same, beq_self_eq_true] at hne
  contradiction

/-- What a load gives. -/
theorem producible_of_load {salt : Salt} {document : Value} {es : List Entry}
    (hdistinct : document.DistinctKeys) (huntagged : UntaggedKeys document)
    (h : load salt document = .ok es) : Producible es := by
  obtain ⟨records, hrecords, rfl⟩ := load_eq_ok_iff.mp h
  refine ⟨@Snapshot.sound_of_entries_eq salt records _ rfl, ?_⟩
  intro e he
  obtain ⟨record, hmem, hentry⟩ := exists_entryOf?_of_mem he
  refine nodup_attributes_of_entryOf? ?_ ?_ hentry
  · exact distinctKeys_of_mem_recordsOf hdistinct hrecords record hmem
  · rw [UntaggedKeys, hrecords] at huntagged
    exact huntagged record hmem

/-- A key with a tag of its own may give a name once more. -/
example : (valueOf? "users:\n- dn: a\n  x: b\n  !t x: c\n").bind (fun document =>
    (load ⟨[1, 2, 3, 4], rfl⟩ document).toOption) =
      some [⟨"a", [⟨"x", ["b"]⟩, ⟨"x", ["c"]⟩]⟩] := by
  decide +kernel

/-- The entries that can be written and loaded: as written they are a document, in which no mapping
has a key twice, and a load of it gives them back. -/
theorem producible_iff {es : List Entry} :
    Producible es ↔
      (documentOf es).DistinctKeys ∧ ∀ salt, load salt (documentOf es) = .ok es := by
  constructor
  · intro h
    refine ⟨distinctKeys_documentOf_iff.mpr ?_, fun salt => load_documentOf_of_sound salt h.toSound⟩
    intro e he
    exact distinctKeys_recordOf_iff.mpr ⟨h.nodup_attributes e he, h.name_ne_dn e he⟩
  -- any salt would do, since what is written has been encoded before
  · rintro ⟨hdistinct, hload⟩
    obtain ⟨records, -, hentries⟩ := load_eq_ok_iff.mp (hload ⟨[0, 0, 0, 0], rfl⟩)
    refine ⟨Snapshot.sound_of_entries_eq hentries, ?_⟩
    intro e he
    exact (distinctKeys_recordOf_iff.mp (distinctKeys_documentOf_iff.mp hdistinct e he)).1

end Users

-- ---------------------------------------------------------------------------
-- Directories
-- ---------------------------------------------------------------------------

/-- A directory that loads a text publishes the entries of its value. -/
theorem Directory.load_of_valueOf? {salt : Salt} {now : Nat} {d d' : Directory} {source : String}
    {document : Value} (hsource : valueOf? source = some document) :
    d.load salt now source = .ok d' ↔
      ∃ es, Users.load salt document = .ok es ∧ d' = d.publish now es := by
  rw [Directory.load_eq_ok_iff, recordsAt?, hsource, Option.bind_some]
  simp only [toOption_eq_some_iff, Users.load_eq_ok_iff]
  constructor
  · rintro ⟨records, hrecords, rfl⟩
    exact ⟨_, ⟨records, hrecords, rfl⟩, rfl⟩
  · rintro ⟨_, ⟨records, hrecords, rfl⟩, rfl⟩
    exact ⟨records, hrecords, rfl⟩

/-- Written entries are loaded as they were, if they are such as a load may give; and a load gives
no others, as long as no key in a record has a tag of its own. So a directory that loads the document
that another one's entries make publishes the same entries, with the same passwords. -/
theorem Directory.load_documentOf :
    (∀ salt es, Producible es →
      (documentOf es).DistinctKeys ∧ Users.load salt (documentOf es) = .ok es) ∧
    (∀ salt document es, document.DistinctKeys → UntaggedKeys document →
      Users.load salt document = .ok es →
        Producible es ∧ ∀ salt', Users.load salt' (documentOf es) = .ok es) ∧
    ∀ salt now (d d' : Directory) source document, valueOf? source = some document →
      UntaggedKeys document → d.load salt now source = .ok d' →
        Producible d'.snapshot.entries ∧
        ∀ salt' now' (e : Directory) source',
          valueOf? source' = some (documentOf d'.snapshot.entries) →
            ∃ e', e.load salt' now' source' = .ok e' ∧ e'.snapshot.entries = d'.snapshot.entries := by
  refine ⟨?_, ?_, ?_⟩
  · intro salt es h
    obtain ⟨hdistinct, hload⟩ := producible_iff.mp h
    exact ⟨hdistinct, hload salt⟩
  · intro salt document es hdistinct huntagged hload
    have h := producible_of_load hdistinct huntagged hload
    exact ⟨h, (producible_iff.mp h).2⟩
  · intro salt now d d' source document hsource huntagged hload
    -- what is read from a text has distinct keys, so that the second part applies
    obtain ⟨entries, hentries, rfl⟩ := (Directory.load_of_valueOf? hsource).mp hload
    have h := producible_of_load (distinctKeys_of_valueOf? hsource) huntagged hentries
    refine ⟨h, fun salt' now' e source' hsource' => ⟨e.publish now' entries, ?_, rfl⟩⟩
    exact (Directory.load_of_valueOf? hsource').mpr ⟨_, (producible_iff.mp h).2 salt', rfl⟩

/-- Spellings of `dn` and of another name, an empty list and an encoded password stay what they are,
whatever salt the second load uses. -/
theorem Directory.load_documentOf_spellings :
    let d : Directory := { config := ⟨"o=a", "users.yaml", {}⟩ }
    let source :=
      "users:\n- dn: a\n  DN: [b, c]\n  mail: []\n  MAIL: d\n  userPassword: e\n- dn: a\n"
    ∃ d', d.load ⟨[1, 2, 3, 4], rfl⟩ 0 source = .ok d' ∧
      d'.snapshot.entries.map (·.attributes.map (·.name)) =
        [["DN", "mail", "MAIL", "userPassword"]] ∧
      Users.load ⟨[5, 6, 7, 8], rfl⟩ (documentOf d'.snapshot.entries) =
        .ok d'.snapshot.entries := by
  intro d source
  have hloads : ((d.load ⟨[1, 2, 3, 4], rfl⟩ 0 source).toOption.map fun d' =>
      d'.snapshot.entries.map (·.attributes.map (·.name))) =
        some [["DN", "mail", "MAIL", "userPassword"]] := by
    decide +kernel
  have huntagged : (valueOf? source).any (UntaggedKeys ·) = true := by decide +kernel
  obtain ⟨document, hsource, huntagged⟩ := (Option.any_eq_true _ _).mp huntagged
  obtain ⟨d', h, hnames⟩ := Option.map_eq_some_iff.mp hloads
  rw [toOption_eq_some_iff] at h
  obtain ⟨hwritten, -, hloaded⟩ := Directory.load_documentOf
  obtain ⟨hproducible, -⟩ :=
    hloaded _ _ d d' source document hsource (of_decide_eq_true huntagged) h
  exact ⟨d', h, hnames, (hwritten _ _ hproducible).2⟩

end UserDirectory
