import UserDirectory.Users

/-!
# UserDirectory — entries and the records they come from

Which record of a users document an entry comes from, and which of the values in that record end up
under `userPassword`.

## Results

* `find?_entriesOf`             — the entry of some name comes from the first record of that name.
* `mem_values_password_iff`     — its passwords are the stored forms of those of the record.
-/

namespace UserDirectory.Users

open Text Yaml

-- ---------------------------------------------------------------------------
-- What a record says
-- ---------------------------------------------------------------------------

/-- Whether a member of a record has the text: as its only value, or as an item of a list. -/
inductive HasText : Value → String → Prop where
  | scalar {value : Value} {text : String} (h : scalarText? value = some text) : HasText value text
  | item {items : List Value} {item : Value} {text : String} (hmem : item ∈ items)
      (h : scalarText? item = some text) : HasText (.sequence items) text

/-- Whether the record has the text as a password: under a key that is `userPassword` but for letter
case. -/
def HasPassword (record : Value) (text : String) : Prop :=
  ∃ members key value name, record.members? = some members ∧ (key, value) ∈ members ∧
    key.text? = some name ∧ lowerCase name = "userpassword" ∧ HasText value text

/-- The passwords of a record. -/
def passwordsOf (record : Value) : List String :=
  let members := (record.members?.getD []).filter fun (key, _) =>
    key.text?.map lowerCase == some "userpassword"
  members.flatMap fun (_, value) => (valuesOf? value).getD []

/-- The first record that describes an entry of the given name. -/
def firstNamed? (records : List Value) (dn : String) : Option Value :=
  records.find? fun record => dnOf? record == some dn

/-- The texts of a value are those that a load takes from it. -/
theorem hasText_iff {value : Value} {text : String} :
    HasText value text ↔ ∃ values, valuesOf? value = some values ∧ text ∈ values := by
  constructor
  · rintro (h | ⟨hmem, h⟩)
    · refine ⟨[text], ?_, List.mem_singleton_self text⟩
      cases value with
      | sequence items => simp [scalarText?] at h
      | _ => simp [valuesOf?, h]
    · exact ⟨_, rfl, List.mem_filterMap.mpr ⟨_, hmem, h⟩⟩
  -- only a list has values of more than one item
  · rintro ⟨values, hv, hmem⟩
    cases value with
    | sequence items =>
      cases hv
      obtain ⟨item, hitem, h⟩ := List.mem_filterMap.mp hmem
      exact .item hitem h
    | _ =>
      rw [valuesOf?] at hv
      · obtain ⟨text', h, rfl⟩ := Option.map_eq_some_iff.mp hv
        rw [List.mem_singleton] at hmem
        rw [hmem]
        exact .scalar h
      · simp

theorem mem_getD_nil_iff {α : Type} {xs? : Option (List α)} {x : α} :
    x ∈ xs?.getD [] ↔ ∃ xs, xs? = some xs ∧ x ∈ xs := by
  cases xs? <;> simp

/-- The passwords of a record can be computed. -/
theorem hasPassword_iff {record : Value} {text : String} :
    HasPassword record text ↔ text ∈ passwordsOf record := by
  simp only [passwordsOf, HasPassword, List.mem_flatMap, List.mem_filter, mem_getD_nil_iff,
    beq_iff_eq, Option.map_eq_some_iff, hasText_iff]
  constructor
  · rintro ⟨members, key, value, name, hm, hmem, hkey, hname, hvalues⟩
    exact ⟨(key, value), ⟨⟨members, hm, hmem⟩, name, hkey, hname⟩, hvalues⟩
  · rintro ⟨⟨key, value⟩, ⟨⟨members, hm, hmem⟩, name, hkey, hname⟩, hvalues⟩
    exact ⟨members, key, value, name, hm, hmem, hkey, hname, hvalues⟩

-- ---------------------------------------------------------------------------
-- The entry of a record
-- ---------------------------------------------------------------------------

/-- The entry of a record has its name, and an attribute for each member of it that is one. A record
is a mapping with a name. -/
theorem entryOf?_eq_some_iff {salt : Password.Salt} {record : Value} {e : Entry} :
    entryOf? salt record = some e ↔ ∃ members, record.members? = some members ∧
      dnOf? record = some e.dn ∧
      e.attributes = members.filterMap fun (key, value) => attributeOf? salt key value := by
  rw [entryOf?]
  constructor
  · intro h
    split at h
    · next members dn hm hdn =>
      rw [← Option.some.inj h]
      exact ⟨members, hm, hdn, rfl⟩
    · simp at h
  · rintro ⟨members, hm, hdn, hattributes⟩
    rw [hm, hdn]
    obtain ⟨dn, attributes⟩ := e
    simp only at hattributes
    rw [hattributes]

/-- A record with a name is a mapping, so it describes an entry. -/
theorem exists_entryOf?_of_dnOf? {record : Value} {dn : String} (salt : Password.Salt)
    (h : dnOf? record = some dn) : ∃ e, entryOf? salt record = some e ∧ e.dn = dn := by
  cases hm : record.members? with
  | none =>
    rw [dnOf?, hm] at h
    simp at h
  | some members =>
    exact ⟨⟨dn, _⟩, entryOf?_eq_some_iff.mpr ⟨members, hm, h, rfl⟩, rfl⟩

/-- To keep the first entry of each name keeps what is found by name. -/
theorem find?_firstOfEachName (es : List Entry) (dn : String) :
    (firstOfEachName es).find? (·.dn == dn) = es.find? (·.dn == dn) := by
  induction es with
  | nil => rfl
  | cons e es ih =>
    rw [firstOfEachName, List.find?_cons, List.find?_cons]
    by_cases he : e.dn = dn
    · simp only [he, beq_self_eq_true]
    · have hkept : ∀ f : Entry,
          decide ((f.dn != e.dn) = true ∧ (f.dn == dn) = true) = (f.dn == dn) := by
        intro f
        by_cases hf : f.dn = dn
        · simp [hf, Ne.symm he]
        · simp [hf]
      simp only [beq_eq_false_iff_ne.mpr he, List.find?_filter, hkept, ih]

/-- The first entry of a name is that of the first record with the name. -/
theorem find?_filterMap_entryOf? (salt : Password.Salt) (records : List Value) (dn : String) :
    (records.filterMap (entryOf? salt)).find? (·.dn == dn) =
      (firstNamed? records dn).bind (entryOf? salt) := by
  induction records with
  | nil => rfl
  | cons record records ih =>
    rw [firstNamed?, List.find?_cons]
    cases hdn : dnOf? record with
    | none =>
      -- without a name the record describes no entry
      have hnone : entryOf? salt record = none := by
        rw [Option.eq_none_iff_forall_ne_some]
        intro e he
        obtain ⟨-, -, h, -⟩ := entryOf?_eq_some_iff.mp he
        rw [hdn] at h
        contradiction
      rw [List.filterMap_cons_none hnone]
      exact ih
    | some dn' =>
      obtain ⟨e, he, hname⟩ := exists_entryOf?_of_dnOf? salt hdn
      rw [List.filterMap_cons_some he, List.find?_cons, hname]
      by_cases h : dn' = dn
      · simp [h, he]
      · simp only [beq_eq_false_iff_ne.mpr h]
        rw [show (some dn' == some dn) = false by simpa using h]
        exact ih

theorem dnOf?_of_firstNamed? {records : List Value} {dn : String} {record : Value}
    (h : firstNamed? records dn = some record) : dnOf? record = some dn := by
  unfold firstNamed? at h
  have hname := List.find?_some h
  exact beq_iff_eq.mp hname

/-- The entry of some name is that of the first record of this name. -/
theorem find?_entriesOf (salt : Password.Salt) (records : List Value) (dn : String) :
    (entriesOf salt records).find? (·.dn == dn) =
      (firstNamed? records dn).bind (entryOf? salt) := by
  rw [entriesOf, find?_firstOfEachName, find?_filterMap_entryOf?]

/-- A document loads if it has a list of records, and gives the entries of these. -/
theorem load_eq_ok_iff {salt : Password.Salt} {document : Value} {es : List Entry} :
    load salt document = .ok es ↔
      ∃ records, recordsOf document = .ok records ∧ es = entriesOf salt records := by
  rw [load]
  cases recordsOf document with
  | error e => simp [Except.map]
  | ok records => simp [Except.map, eq_comm]

-- ---------------------------------------------------------------------------
-- The passwords of a record
-- ---------------------------------------------------------------------------

theorem sameName_password_iff {name : String} :
    sameName name passwordAttribute = true ↔ lowerCase name = "userpassword" := by
  have hname : lowerCase passwordAttribute = "userpassword" := by decide +kernel
  rw [sameName, hname, beq_iff_eq]

theorem toOption_eq_some_iff {ε α : Type} {r : Except ε α} {a : α} :
    r.toOption = some a ↔ r = .ok a := by
  cases r <;> simp [Except.toOption]

/-- The stored passwords are the forms of those values that can be taken in. -/
theorem mem_storedPasswords_iff {salt : Password.Salt} {values : List String} {stored : String} :
    stored ∈ storedPasswords salt values ↔
      ∃ text ∈ values, Password.ingest salt text = .ok stored := by
  rw [storedPasswords, List.mem_filterMap]
  simp only [toOption_eq_some_iff]

/-- A member of a record is an attribute if its key is a text other than `dn` and its value has
values. -/
theorem attributeOf?_eq_some_iff {salt : Password.Salt} {key value : Value} {a : Attribute} :
    attributeOf? salt key value = some a ↔
      ∃ name values, key.text? = some name ∧ name ≠ "dn" ∧ valuesOf? value = some values ∧
        a = ⟨name, if sameName name passwordAttribute then storedPasswords salt values
          else values⟩ := by
  rw [attributeOf?]
  constructor
  · intro h
    split at h
    · next name values hkey hvalues =>
      split at h
      · simp at h
      · next hne =>
        refine ⟨name, values, hkey, hne, hvalues, ?_⟩
        split at h
        · next hpassword => rw [if_pos hpassword, ← Option.some.inj h]
        · next hother => rw [if_neg hother, ← Option.some.inj h]
    · simp at h
  · rintro ⟨name, values, hkey, hne, hvalues, rfl⟩
    simp only [hkey, hvalues]
    rw [if_neg hne]
    split <;> rfl

/-- A member of a record is an attribute that holds passwords just if its key says so. -/
theorem attributeOf?_password_iff {salt : Password.Salt} {key value : Value} {a : Attribute} :
    attributeOf? salt key value = some a ∧ sameName a.name passwordAttribute = true ↔
      ∃ name values, key.text? = some name ∧ lowerCase name = "userpassword" ∧
        valuesOf? value = some values ∧ a = ⟨name, storedPasswords salt values⟩ := by
  have hdn : ¬ sameName "dn" passwordAttribute = true := by decide +kernel
  rw [attributeOf?_eq_some_iff]
  constructor
  · rintro ⟨⟨name, values, hkey, -, hvalues, rfl⟩, hpassword⟩
    refine ⟨name, values, hkey, sameName_password_iff.mp hpassword, hvalues, ?_⟩
    rw [if_pos hpassword]
  · rintro ⟨name, values, hkey, hname, hvalues, rfl⟩
    have hpassword := sameName_password_iff.mpr hname
    have hne : name ≠ "dn" := by
      rintro rfl
      exact hdn hpassword
    refine ⟨⟨name, values, hkey, hne, hvalues, ?_⟩, hpassword⟩
    rw [if_pos hpassword]

/-- The passwords of an entry are the stored forms of the passwords of its record. -/
theorem mem_values_password_iff {salt : Password.Salt} {record : Value} {e : Entry}
    (he : entryOf? salt record = some e) {stored : String} :
    stored ∈ e.values passwordAttribute ↔
      ∃ text, HasPassword record text ∧ Password.ingest salt text = .ok stored := by
  -- the entry's own name is not asked for, so that all values are stored ones
  have hdn : sameName passwordAttribute "dn" = false := by decide +kernel
  obtain ⟨members, hm, -, hattributes⟩ := entryOf?_eq_some_iff.mp he
  rw [Entry.values, hdn, Bool.and_false, hattributes]
  simp only [Bool.false_eq_true, if_false, List.append_nil, List.mem_flatMap, List.mem_filter,
    List.mem_filterMap]
  constructor
  · rintro ⟨a, ⟨⟨⟨key, value⟩, hmem, ha⟩, hname⟩, hstored⟩
    obtain ⟨name, values, hkey, hlower, hvalues, rfl⟩ := attributeOf?_password_iff.mp ⟨ha, hname⟩
    obtain ⟨text, htext, hok⟩ := mem_storedPasswords_iff.mp hstored
    have hhas := hasText_iff.mpr ⟨values, hvalues, htext⟩
    exact ⟨text, ⟨members, key, value, name, hm, hmem, hkey, hlower, hhas⟩, hok⟩
  · rintro ⟨text, ⟨members', key, value, name, hm', hmem, hkey, hlower, hhas⟩, hok⟩
    rw [hm] at hm'
    cases hm'
    obtain ⟨values, hvalues, htext⟩ := hasText_iff.mp hhas
    obtain ⟨ha, hname⟩ := attributeOf?_password_iff.mpr
      ⟨name, values, hkey, hlower, hvalues, rfl⟩
    refine ⟨_, ⟨⟨(key, value), hmem, ha⟩, hname⟩, ?_⟩
    exact mem_storedPasswords_iff.mpr ⟨text, htext, hok⟩

end UserDirectory.Users
