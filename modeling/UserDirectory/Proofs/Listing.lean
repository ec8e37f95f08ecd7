import UserDirectory.Proofs.Bind
import UserDirectory.Proofs.Filter.Evaluation
import UserDirectory.Proofs.Users.Integrity

/-!
# UserDirectory — who is listed

The filter `(dn=*)` is meant to list all entries, since each has a name. It lists those that answer
for `dn` with something that is not empty. The name of an entry answers if no attribute is stored
under a spelling of `dn`; one that is stored, such as `DN`, answers in its place, even if it has no
values. So an entry is missing if its name is empty, or if its record has another spelling of `dn`
with nothing under it.

## Results

* `Snapshot.query_dn_eq`         — which entries of a snapshot are listed.
* `Directory.query_dn_of_load`   — which records of a users document are listed, and when all are.
-/

namespace UserDirectory

open Text Users Password

-- ---------------------------------------------------------------------------
-- Entries
-- ---------------------------------------------------------------------------

/-- Whether an entry answers for `dn` with something that is not empty. -/
def Entry.ShowsName (e : Entry) : Prop :=
  (∃ a ∈ e.attributes, lowerCase a.name = "dn" ∧ ∃ v ∈ a.values, v ≠ "") ∨
    (∀ a ∈ e.attributes, lowerCase a.name ≠ "dn") ∧ e.dn ≠ ""

theorem lowerCase_dn : lowerCase "dn" = "dn" := by decide +kernel

/-- The filter `(dn=*)` finds an entry if it answers for `dn` with something that is not empty. -/
theorem Filter.evaluate_dn_star_iff {e : Entry} :
    (Filter.equals "dn" "*").evaluate e = true ↔ e.ShowsName := by
  rw [Filter.equals, Filter.evaluate_equality_iff]
  simp only [Entry.exists_mem_values_iff, Pattern.accepts_star_iff, lowerCase_dn]
  -- a value comes from an attribute of the name, or else it is the name of the entry
  constructor
  · rintro ⟨value, ⟨a, ha, hname, v, hv, rfl⟩ | ⟨⟨hnone, -⟩, rfl⟩, hne⟩
    · rw [ne_eq, lowerCase_eq_empty_iff] at hne
      exact .inl ⟨a, ha, hname, v, hv, hne⟩
    · rw [ne_eq, lowerCase_eq_empty_iff] at hne
      exact .inr ⟨fun a ha hname => hnone ⟨a, ha, hname⟩, hne⟩
  · rintro (⟨a, ha, hname, v, hv, hne⟩ | ⟨hnone, hne⟩)
    · refine ⟨lowerCase v, .inl ⟨a, ha, hname, v, hv, rfl⟩, ?_⟩
      rwa [ne_eq, lowerCase_eq_empty_iff]
    · refine ⟨lowerCase e.dn, .inr ⟨⟨?_, trivial⟩, rfl⟩, ?_⟩
      · rintro ⟨a, ha, hname⟩
        exact hnone a ha hname
      · rwa [ne_eq, lowerCase_eq_empty_iff]

/-- The entries of a snapshot that are listed, in order. -/
theorem Snapshot.query_dn_eq (s : Snapshot) :
    s.query "(dn=*)" = .ok (s.search (.equals "dn" "*")) ∧
      ∀ e, e ∈ s.search (.equals "dn" "*") ↔ e ∈ s.entries ∧ e.ShowsName := by
  have hparse : Filter.parse "(dn=*)" = .ok (.equals "dn" "*") := by decide +kernel
  refine ⟨?_, fun e => ?_⟩
  · rw [query, hparse]
    rfl
  · rw [search, List.mem_filter, Filter.evaluate_dn_star_iff]

-- ---------------------------------------------------------------------------
-- Records
-- ---------------------------------------------------------------------------

namespace Users

/-- Whether the record has the value under a spelling of `dn` other than this one. -/
def HasUnderOtherDn (record value : Yaml.Value) : Prop :=
  ∃ members key name, record.members? = some members ∧ (key, value) ∈ members ∧
    key.text? = some name ∧ name ≠ "dn" ∧ lowerCase name = "dn"

/-- The values of a record under spellings of `dn` other than this one. -/
def valuesUnderOtherDn (record : Yaml.Value) : List Yaml.Value :=
  let members := (record.members?.getD []).filter fun (key, _) =>
    key.text?.any fun name => name != "dn" && lowerCase name == "dn"
  members.map (·.2)

/-- What a record has under other spellings of `dn` can be computed. -/
theorem hasUnderOtherDn_iff {record value : Yaml.Value} :
    HasUnderOtherDn record value ↔ value ∈ valuesUnderOtherDn record := by
  simp only [valuesUnderOtherDn, HasUnderOtherDn, List.mem_map, List.mem_filter, mem_getD_nil_iff,
    Option.any_eq_true, Bool.and_eq_true, bne_iff_ne, beq_iff_eq]
  constructor
  · rintro ⟨members, key, name, hm, hmem, hkey, hne, hname⟩
    exact ⟨(key, value), ⟨⟨members, hm, hmem⟩, name, hkey, hne, hname⟩, rfl⟩
  · rintro ⟨⟨key, _⟩, ⟨⟨members, hm, hmem⟩, name, hkey, hne, hname⟩, rfl⟩
    exact ⟨members, key, name, hm, hmem, hkey, hne, hname⟩

/-- Whether the entry of a record is listed: there is something under another spelling of `dn`, or
nothing there can be used and the name itself is not empty. -/
def IsListed (record : Yaml.Value) : Prop :=
  (∃ value text, HasUnderOtherDn record value ∧ HasText value text ∧ text ≠ "") ∨
    (∀ value, HasUnderOtherDn record value → valuesOf? value = none) ∧ dnOf? record ≠ some ""

/-- Whether the entry of a record is listed can be computed. -/
theorem isListed_iff {record : Yaml.Value} :
    IsListed record ↔
      (∃ value ∈ valuesUnderOtherDn record, ∃ text ∈ (valuesOf? value).getD [], text ≠ "") ∨
        (∀ value ∈ valuesUnderOtherDn record, valuesOf? value = none) ∧
          dnOf? record ≠ some "" := by
  simp only [IsListed, hasUnderOtherDn_iff, hasText_iff, mem_getD_nil_iff]
  refine or_congr_left ?_
  constructor
  · rintro ⟨value, text, hunder, htext, hne⟩
    exact ⟨value, hunder, text, htext, hne⟩
  · rintro ⟨value, hunder, text, htext, hne⟩
    exact ⟨value, text, hunder, htext, hne⟩

instance (record : Yaml.Value) : Decidable (IsListed record) :=
  decidable_of_iff _ isListed_iff.symm

/-- An attribute under a spelling of `dn` is no password, so it has the values of the record. -/
theorem attributeOf?_dn_iff (salt : Salt) {key value : Yaml.Value} {a : Attribute} :
    attributeOf? salt key value = some a ∧ lowerCase a.name = "dn" ↔
      ∃ name values, key.text? = some name ∧ name ≠ "dn" ∧ lowerCase name = "dn" ∧
        valuesOf? value = some values ∧ a = ⟨name, values⟩ := by
  have hother : ∀ name, lowerCase name = "dn" → ¬ sameName name passwordAttribute = true := by
    intro name hname hpassword
    rw [sameName_password_iff, hname] at hpassword
    exact absurd hpassword (by decide)
  rw [attributeOf?_eq_some_iff]
  constructor
  · rintro ⟨⟨name, values, hkey, hne, hvalues, rfl⟩, hname⟩
    exact ⟨name, values, hkey, hne, hname, hvalues, by rw [if_neg (hother name hname)]⟩
  · rintro ⟨name, values, hkey, hne, hname, hvalues, rfl⟩
    exact ⟨⟨name, values, hkey, hne, hvalues, by rw [if_neg (hother name hname)]⟩, hname⟩

/-- An entry stores a spelling of `dn` if its record has something under one that can be used. -/
theorem exists_attribute_dn_iff {salt : Salt} {record : Yaml.Value} {e : Entry}
    (he : entryOf? salt record = some e) {P : List String → Prop} :
    (∃ a ∈ e.attributes, lowerCase a.name = "dn" ∧ P a.values) ↔
      ∃ value values, HasUnderOtherDn record value ∧ valuesOf? value = some values ∧ P values := by
  obtain ⟨members, hm, -, hattributes⟩ := entryOf?_eq_some_iff.mp he
  rw [hattributes]
  simp only [List.mem_filterMap]
  constructor
  · rintro ⟨a, ⟨⟨key, value⟩, hmem, ha⟩, hname, hP⟩
    obtain ⟨name, values, hkey, hne, hlower, hvalues, rfl⟩ :=
      (attributeOf?_dn_iff salt).mp ⟨ha, hname⟩
    exact ⟨value, values, ⟨members, key, name, hm, hmem, hkey, hne, hlower⟩, hvalues, hP⟩
  · rintro ⟨value, values, ⟨members', key, name, hm', hmem, hkey, hne, hlower⟩, hvalues, hP⟩
    rw [hm] at hm'
    cases hm'
    obtain ⟨ha, hname⟩ :=
      (attributeOf?_dn_iff salt).mpr ⟨name, values, hkey, hne, hlower, hvalues, rfl⟩
    exact ⟨⟨name, values⟩, ⟨(key, value), hmem, ha⟩, hname, hP⟩

/-- An entry answers for `dn` if its record is one of those that are listed. -/
theorem showsName_iff_isListed {salt : Salt} {record : Yaml.Value} {e : Entry}
    (he : entryOf? salt record = some e) : e.ShowsName ↔ IsListed record := by
  obtain ⟨-, -, hdn, -⟩ := entryOf?_eq_some_iff.mp he
  -- the same fact on attributes twice: for one with a value that is not empty, and for any at all
  have hshown : (∃ a ∈ e.attributes, lowerCase a.name = "dn" ∧ ∃ v ∈ a.values, v ≠ "") ↔
      ∃ value text, HasUnderOtherDn record value ∧ HasText value text ∧ text ≠ "" := by
    refine (exists_attribute_dn_iff he (P := fun values => ∃ v ∈ values, v ≠ "")).trans ?_
    simp only [hasText_iff]
    constructor
    · rintro ⟨value, values, hunder, hvalues, text, hmem, hne⟩
      exact ⟨value, text, hunder, ⟨values, hvalues, hmem⟩, hne⟩
    · rintro ⟨value, text, hunder, ⟨values, hvalues, hmem⟩, hne⟩
      exact ⟨value, values, hunder, hvalues, text, hmem, hne⟩
  have hfree : (∀ a ∈ e.attributes, lowerCase a.name ≠ "dn") ↔
      ∀ value, HasUnderOtherDn record value → valuesOf? value = none := by
    have hstored := exists_attribute_dn_iff he (P := fun _ => True)
    simp only [and_true] at hstored
    constructor
    · intro hnone value hunder
      rw [Option.eq_none_iff_forall_ne_some]
      intro values hvalues
      obtain ⟨a, ha, hname⟩ := hstored.mpr ⟨value, values, hunder, hvalues⟩
      exact hnone a ha hname
    · intro hnone a ha hname
      obtain ⟨value, values, hunder, hvalues⟩ := hstored.mp ⟨a, ha, hname⟩
      rw [hnone value hunder] at hvalues
      contradiction
  rw [Entry.ShowsName, IsListed, hshown, hfree, hdn, ne_eq, ne_eq, Option.some.injEq]

end Users

-- ---------------------------------------------------------------------------
-- After a load
-- ---------------------------------------------------------------------------

/-- An entry whose name no other one has is found by its name. -/
theorem find?_dn_of_mem {es : List Entry} (hnodup : (es.map (·.dn)).Nodup) {e : Entry}
    (he : e ∈ es) : es.find? (·.dn == e.dn) = some e := by
  induction es with
  | nil => exact absurd he List.not_mem_nil
  | cons e' es ih =>
    rw [List.map_cons, List.nodup_cons] at hnodup
    rw [List.find?_cons]
    rcases List.mem_cons.mp he with rfl | he
    · rw [beq_self_eq_true]
    · have hne : e'.dn ≠ e.dn := fun h => hnodup.1 (h ▸ List.mem_map_of_mem he)
      rw [beq_eq_false_iff_ne.mpr hne]
      exact ih hnodup.2 he

/-- After a load, `(dn=*)` lists, in order, the entries of those records that are listed: of each
name the first record counts. So it lists all entries just if each of these records either has
something under another spelling of `dn`, or has nothing there that can be used, and a name that is
not empty. -/
theorem Directory.query_dn_of_load {salt : Salt} {now : Nat} {d d' : Directory} {source : String}
    (h : d.load salt now source = .ok d') :
    ∃ records found, recordsAt? source = some records ∧
      d'.snapshot.query "(dn=*)" = .ok found ∧ found.Sublist d'.snapshot.entries ∧
      (∀ e ∈ d'.snapshot.entries, e ∈ found ↔
        ∃ record, firstNamed? records e.dn = some record ∧ IsListed record) ∧
      (found = d'.snapshot.entries ↔
        ∀ dn record, firstNamed? records dn = some record → IsListed record) := by
  obtain ⟨records, hrecords, rfl⟩ := Directory.load_eq_ok_iff.mp h
  have hentries : (d.publish now (entriesOf salt records)).snapshot.entries =
      entriesOf salt records := rfl
  generalize (d.publish now (entriesOf salt records)).snapshot = s at hentries ⊢
  have hnames := (Snapshot.sound_of_entries_eq hentries).nodup_names
  obtain ⟨hquery, hfound⟩ := s.query_dn_eq
  -- the entry of a name, and its record
  have hrecord : ∀ e ∈ s.entries, ∃ record, firstNamed? records e.dn = some record ∧
      entryOf? salt record = some e := by
    intro e he
    have hfind := find?_dn_of_mem hnames he
    rw [hentries, find?_entriesOf, Option.bind_eq_some_iff] at hfind
    exact hfind
  have hlisted : ∀ e ∈ s.entries, e.ShowsName ↔
      ∃ record, firstNamed? records e.dn = some record ∧ IsListed record := by
    intro e he
    obtain ⟨record, hfirst, hentry⟩ := hrecord e he
    rw [showsName_iff_isListed hentry, hfirst]
    simp
  refine ⟨records, _, hrecords, hquery, List.filter_sublist, ?_, ?_⟩
  · intro e he
    rw [hfound, and_iff_right he, hlisted e he]
  · have hall : s.search (.equals "dn" "*") = s.entries ↔ ∀ e ∈ s.entries, e.ShowsName := by
      rw [Snapshot.search, List.filter_eq_self]
      simp only [Filter.evaluate_dn_star_iff]
    rw [hall]
    constructor
    · intro hshown dn record hfirst
      obtain ⟨e, hentry, rfl⟩ := exists_entryOf?_of_dnOf? salt (dnOf?_of_firstNamed? hfirst)
      have hmem : e ∈ s.entries := by
        have hfind := find?_entriesOf salt records e.dn
        rw [hfirst, Option.bind_some, hentry, ← hentries] at hfind
        exact List.mem_of_find?_eq_some hfind
      exact (showsName_iff_isListed hentry).mp (hshown e hmem)
    · intro hrecords e he
      obtain ⟨record, hfirst, hentry⟩ := hrecord e he
      exact (showsName_iff_isListed hentry).mpr (hrecords e.dn record hfirst)

/-- Another spelling of `dn` may give the name once more, and one that has nothing that can be used
does no harm. -/
theorem Directory.query_dn_of_load_spellings :
    let d : Directory := { config := ⟨"o=a", "users.yaml", {}⟩ }
    let source := "users:\n- dn: o=a\n  DN: o=A\n- dn: o=b\n  Dn: \x7b\x7d\n"
    ∃ d', d.load ⟨[1, 2, 3, 4], rfl⟩ 0 source = .ok d' ∧
      d'.snapshot.query "(dn=*)" = .ok d'.snapshot.entries := by
  intro d source
  have hloads : (d.load ⟨[1, 2, 3, 4], rfl⟩ 0 source).isOk = true := by decide +kernel
  obtain ⟨d', h⟩ := isOk_iff.mp hloads
  obtain ⟨records, found, hrecords, hquery, -, -, hall⟩ := query_dn_of_load h
  have hlisted : (recordsAt? source).all (fun records => records.all (IsListed ·)) = true := by
    decide +kernel
  simp only [hrecords, Option.all_some, List.all_eq_true, decide_eq_true_eq] at hlisted
  refine ⟨d', h, ?_⟩
  rw [hquery, hall.mpr fun dn record hfirst => hlisted record (List.mem_of_find?_eq_some hfirst)]

/-- An entry is not listed whose record has another spelling of `dn` with an empty list. -/
theorem Directory.query_dn_of_load_missing :
    let d : Directory := { config := ⟨"o=a", "users.yaml", {}⟩ }
    ∃ d', d.load ⟨[1, 2, 3, 4], rfl⟩ 0 "users:\n- dn: o=a\n  DN: []\n" = .ok d' ∧
      d'.snapshot.entries = [⟨"o=a", [⟨"DN", []⟩]⟩] ∧ d'.snapshot.query "(dn=*)" = .ok [] := by
  intro d
  have hloads : ((d.load ⟨[1, 2, 3, 4], rfl⟩ 0 "users:\n- dn: o=a\n  DN: []\n").toOption.map
      fun d' => d'.snapshot.entries) = some [⟨"o=a", [⟨"DN", []⟩]⟩] := by decide +kernel
  obtain ⟨d', h, hentries⟩ := Option.map_eq_some_iff.mp hloads
  refine ⟨d', toOption_eq_some_iff.mp h, hentries, ?_⟩
  obtain ⟨hquery, hfound⟩ := d'.snapshot.query_dn_eq
  have hnot : ¬ Entry.ShowsName ⟨"o=a", [⟨"DN", []⟩]⟩ := by
    have hname : lowerCase "DN" = "dn" := by decide +kernel
    simp [Entry.ShowsName, hname]
  have hnone : d'.snapshot.search (.equals "dn" "*") = [] := by
    rw [List.eq_nil_iff_forall_not_mem]
    intro e he
    obtain ⟨hmem, hshows⟩ := (hfound e).mp he
    rw [hentries, List.mem_singleton] at hmem
    exact hnot (hmem ▸ hshows)
  rw [hquery, hnone]

end UserDirectory
