import Mathlib.Data.List.Forall2
import UserDirectory.Proofs.Password.Verification
import UserDirectory.Proofs.Users.Records
import UserDirectory.Proofs.Yaml.Distinct

/-!
# UserDirectory — what a users document may do without

A load passes over what it cannot use. To leave such things out of the document, any number of them
and at all depths at once, gives the same entries: an item, a member or a record that is idle touches
nothing that stands beside it. One member is not idle though its value is no scalar and no list: a
name with a tag of its own.

Records do not depend on each other but for their names, so to put two lists of records together is
to put their entries together, without the entries of the second list whose names are taken.

## Results

* `Users.attributeOf?_of_pruned` — an attribute without some items of its list.
* `Users.entryOf?_of_pruned`     — a record without some members.
* `Users.newTo_of_pruned`        — the entries of records without some records.
* `Users.newTo_append`           — the entries of two lists of records.
* `Users.load_pruned`            — all this for the load of a document.
-/

namespace UserDirectory

open Text Yaml

/-- Whether the second list is the first one without some of its items. An item may be left out if it
is idle after the items before it, and one that stays may change. -/
inductive Pruned {α : Type} (Idle : List α → α → Prop) (Kept : α → α → Prop) :
    List α → List α → List α → Prop where
  | nil (before : List α) : Pruned Idle Kept before [] []
  | drop {before xs ys : List α} {x : α} (hidle : Idle before x)
      (h : Pruned Idle Kept (before ++ [x]) xs ys) : Pruned Idle Kept before (x :: xs) ys
  | keep {before xs ys : List α} {x y : α} (hkept : Kept x y)
      (h : Pruned Idle Kept (before ++ [x]) xs ys) : Pruned Idle Kept before (x :: xs) (y :: ys)

/-- Whether two values are the same but for a change under the same tags. -/
inductive Yaml.Value.UnderTags (Change : Value → Value → Prop) : Value → Value → Prop where
  | same (v : Value) : UnderTags Change v v
  | content {v v' : Value} (h : Change v v') : UnderTags Change v v'
  | tagged (tag : String) {v v' : Value} (h : UnderTags Change v v') :
      UnderTags Change (.tagged tag v) (.tagged tag v')

namespace Users

-- ---------------------------------------------------------------------------
-- What is idle
-- ---------------------------------------------------------------------------

/-- Whether a value is a text, a number or a truth value, without a tag. -/
def IsScalar : Value → Prop
  | .text _ | .number _ | .bool _ => True
  | _ => False

/-- Whether a value is a list, without a tag. -/
def IsList : Value → Prop
  | .sequence _ => True
  | _ => False

/-- Whether nothing comes of an item of a list under the key: it is no scalar, or a password whose
tag is not known. -/
def IdleItem (key item : Value) : Prop :=
  ¬ IsScalar item ∨ ∃ name text, key.text? = some name ∧ lowerCase name = "userpassword" ∧
    scalarText? item = some text ∧ Password.IsForeign text

/-- Whether a member gives its record a name. -/
def IsName (member : Value × Value) : Prop := member.1 = .text "dn" ∧ member.2.text?.isSome

/-- Whether nothing comes of a member of a record: its key is no text, or its value is no scalar and
no list, and it is not the name of the record. -/
def IdleMember (member : Value × Value) : Prop :=
  member.1.text? = none ∨ ¬ IsScalar member.2 ∧ ¬ IsList member.2 ∧ ¬ IsName member

/-- Whether nothing comes of a record after those before it: it is no mapping, it has no name, or its
name is that of an earlier record. -/
def IdleRecord (before : List Value) (record : Value) : Prop :=
  record.members? = none ∨ dnOf? record = none ∨
    ∃ earlier ∈ before, dnOf? earlier = dnOf? record

/-- Some idle items of a list under the key are left out. -/
inductive PrunedItems (key : Value) : Value → Value → Prop where
  | sequence {items items' : List Value} (h : Pruned (fun _ => IdleItem key) Eq [] items items') :
      PrunedItems key (.sequence items) (.sequence items')

/-- A member has the same key, and its list may lack some idle items. -/
def PrunedMember (m m' : Value × Value) : Prop :=
  m'.1 = m.1 ∧ Value.UnderTags (PrunedItems m.1) m.2 m'.2

/-- Some idle members of a record are left out, and items in the others. -/
inductive PrunedMembers : Value → Value → Prop where
  | mapping {members members' : List (Value × Value)}
      (h : Pruned (fun _ => IdleMember) PrunedMember [] members members') :
      PrunedMembers (.mapping members) (.mapping members')

/-- Some idle records of a list are left out, and members and items in the others. -/
inductive PrunedRecords : Value → Value → Prop where
  | sequence {records records' : List Value}
      (h : Pruned IdleRecord (Value.UnderTags PrunedMembers) [] records records') :
      PrunedRecords (.sequence records) (.sequence records')

/-- Some idle records, members and items of a document are left out. -/
inductive PrunedDocument : Value → Value → Prop where
  | mapping {members members' : List (Value × Value)}
      (h : List.Forall₂ (fun m m' => m'.1 = m.1 ∧ Value.UnderTags PrunedRecords m.2 m'.2)
        members members') :
      PrunedDocument (.mapping members) (.mapping members')

end Users

-- ---------------------------------------------------------------------------
-- Lists
-- ---------------------------------------------------------------------------

section Lists

variable {α : Type} {Idle : List α → α → Prop} {Kept : α → α → Prop} {before xs ys : List α}

/-- A function that has nothing to say of idle items, and the same of the others whether they have
changed or not, says the same of both lists. -/
theorem Pruned.filterMap_eq {β : Type} {f : α → Option β} (h : Pruned Idle Kept before xs ys)
    (hidle : ∀ before x, Idle before x → f x = none)
    (hkept : ∀ x y, x ∈ xs → Kept x y → f y = f x) : ys.filterMap f = xs.filterMap f := by
  induction h with
  | nil => rfl
  -- nothing comes of what is left out
  | drop hx _ ih =>
    rw [List.filterMap_cons_none (hidle _ _ hx)]
    exact ih fun x y hmem => hkept x y (List.mem_cons_of_mem _ hmem)
  | keep hxy _ ih =>
    rw [List.filterMap_cons, List.filterMap_cons, hkept _ _ List.mem_cons_self hxy,
      ih fun x y hmem => hkept x y (List.mem_cons_of_mem _ hmem)]

/-- What is kept comes from something in the first list. -/
theorem Pruned.exists_of_mem (h : Pruned Idle Kept before xs ys) {y : α} (hy : y ∈ ys) :
    ∃ x ∈ xs, Kept x y := by
  induction h with
  | nil => exact absurd hy List.not_mem_nil
  | drop _ _ ih =>
    obtain ⟨x, hx, hxy⟩ := ih hy
    exact ⟨x, List.mem_cons_of_mem _ hx, hxy⟩
  | keep hxy _ ih =>
    rcases List.mem_cons.mp hy with rfl | hy
    · exact ⟨_, List.mem_cons_self, hxy⟩
    · obtain ⟨x, hx, hxy⟩ := ih hy
      exact ⟨x, List.mem_cons_of_mem _ hx, hxy⟩

end Lists

/-- What looks through tags sees both values alike, or it sees the change. -/
theorem Yaml.Value.UnderTags.eq_or {Change : Value → Value → Prop} {α : Type} {f : Value → α}
    (htag : ∀ tag v, f (.tagged tag v) = f v) {v v' : Value} (h : UnderTags Change v v') :
    f v' = f v ∨ ∃ u u', Change u u' ∧ f v = f u ∧ f v' = f u' := by
  induction h with
  | same => exact .inl rfl
  | content h => exact .inr ⟨_, _, h, rfl, rfl⟩
  | tagged tag _ ih => rwa [htag, htag]

namespace Users

variable {salt : Password.Salt}

-- ---------------------------------------------------------------------------
-- Attributes
-- ---------------------------------------------------------------------------

theorem scalarText?_eq_none_iff {v : Value} : scalarText? v = none ↔ ¬ IsScalar v := by
  cases v <;> simp [scalarText?, IsScalar]

theorem valuesOf?_eq_none_iff {v : Value} : valuesOf? v = none ↔ ¬ IsScalar v ∧ ¬ IsList v := by
  cases v <;> simp [valuesOf?, scalarText?, IsScalar, IsList]

/-- The form in which an item of a list of passwords is stored. -/
def storedItem? (salt : Password.Salt) (item : Value) : Option String :=
  (scalarText? item).bind fun text => (Password.ingest salt text).toOption

theorem storedPasswords_filterMap (items : List Value) :
    storedPasswords salt (items.filterMap scalarText?) = items.filterMap (storedItem? salt) := by
  rw [storedPasswords, List.filterMap_filterMap]
  rfl

/-- A password whose tag is not known is not stored. -/
theorem toOption_ingest_of_isForeign {text : String} (h : Password.IsForeign text) :
    (Password.ingest salt text).toOption = none := by
  rw [Option.eq_none_iff_forall_ne_some]
  intro stored hstored
  rcases Password.ingest_eq_ok_iff.mp (toOption_eq_some_iff.mp hstored) with ⟨htag, -⟩ | ⟨hplain, -⟩
  · exact h.2 htag
  · exact hplain h.1

/-- Nothing comes of a member whose key is no text. -/
theorem attributeOf?_eq_none_of_key {key value : Value} (h : key.text? = none) :
    attributeOf? salt key value = none := by
  rw [attributeOf?, h]

/-- Nothing comes of a member whose value is no scalar and no list. -/
theorem attributeOf?_eq_none_of_value {key value : Value} (h : valuesOf? value = none) :
    attributeOf? salt key value = none := by
  rw [attributeOf?, h]
  cases key.text? <;> rfl

/-- An attribute does not notice that its list has lost some idle items. -/
theorem attributeOf?_of_prunedItems {key value value' : Value} (h : PrunedItems key value value') :
    attributeOf? salt key value' = attributeOf? salt key value := by
  obtain ⟨hitems⟩ := h
  cases hkey : key.text? with
  | none => rw [attributeOf?_eq_none_of_key hkey, attributeOf?_eq_none_of_key hkey]
  | some name =>
    simp only [attributeOf?, hkey, valuesOf?]
    -- an item is idle for passwords if it is not stored, and for others only if it has no text
    by_cases hpassword : sameName name passwordAttribute = true
    · have hstored := hitems.filterMap_eq (f := storedItem? salt) ?_ fun _ _ _ => congrArg _ ∘ Eq.symm
      · simp only [storedPasswords_filterMap, hstored]
        rw [if_pos hpassword, if_pos hpassword]
      · rintro - item (hscalar | ⟨-, text, -, -, htext, hforeign⟩)
        · rw [storedItem?, scalarText?_eq_none_iff.mpr hscalar, Option.bind_none]
        · rw [storedItem?, htext, Option.bind_some, toOption_ingest_of_isForeign hforeign]
    · have hvalues := hitems.filterMap_eq (f := scalarText?) ?_ fun _ _ _ => congrArg _ ∘ Eq.symm
      · rw [hvalues]
      · rintro - item (hscalar | ⟨name', -, hkey', hname, -⟩)
        · exact scalarText?_eq_none_iff.mpr hscalar
        · rw [hkey] at hkey'
          cases hkey'
          exact absurd (sameName_password_iff.mpr hname) hpassword

/-- An attribute does not notice a list without some idle items, below tags or not. -/
theorem attributeOf?_of_pruned {key value value' : Value}
    (h : Value.UnderTags (PrunedItems key) value value') :
    attributeOf? salt key value' = attributeOf? salt key value := by
  cases h with
  | same => rfl
  | content h => exact attributeOf?_of_prunedItems h
  | tagged tag h =>
    -- a value with a tag is passed over, whatever it is
    rw [attributeOf?_eq_none_of_value rfl, attributeOf?_eq_none_of_value rfl]

-- ---------------------------------------------------------------------------
-- Entries
-- ---------------------------------------------------------------------------

/-- A list has no text, with or without its idle items. -/
theorem text?_of_prunedItems {key value value' : Value}
    (h : Value.UnderTags (PrunedItems key) value value') : value'.text? = value.text? := by
  rcases h.eq_or (f := Value.text?) fun _ _ => rfl with hsame | ⟨_, _, ⟨-⟩, hv, hv'⟩
  · exact hsame
  · rw [hv, hv']
    rfl

theorem lookup?_cons (m : Value × Value) (members : List (Value × Value)) (key : String) :
    Value.lookup? (m :: members) key =
      if m.1.isText key then some m.2 else Value.lookup? members key := by
  rw [Value.lookup?, List.find?_cons]
  cases h : m.1.isText key <;> simp [h, Value.lookup?]

theorem isText_iff {key : Value} {name : String} : key.isText name = true ↔ key = .text name := by
  cases key <;> simp [Value.isText]

/-- A record does not notice that it has lost some idle members: as no key occurs twice, no other
member takes the place of a lost one as its name. -/
theorem lookup?_dn_of_pruned {before members members' : List (Value × Value)}
    (h : Pruned (fun _ => IdleMember) PrunedMember before members members')
    (hdistinct : members.Pairwise fun m m' => m.1.same m'.1 = false) :
    (Value.lookup? members' "dn").bind Value.text? =
      (Value.lookup? members "dn").bind Value.text? := by
  induction h with
  | nil => rfl
  | @drop before members members' m hidle h ih =>
    obtain ⟨hfirst, hrest⟩ := List.pairwise_cons.mp hdistinct
    rw [lookup?_cons]
    by_cases hdn : m.1.isText "dn" = true
    · have hkey := isText_iff.mp hdn
      have hname : m.2.text? = none := by
        rcases hidle with hnone | ⟨-, -, hname⟩
        · rw [hkey] at hnone
          contradiction
        · simpa [IsName, hkey] using hname
      -- no key occurs twice, so no other member is called `dn`
      have hnone : Value.lookup? members' "dn" = none := by
        rw [Value.lookup?, Option.map_eq_none_iff, List.find?_eq_none]
        intro y hy hykey
        obtain ⟨x, hx, hxkey, -⟩ := h.exists_of_mem hy
        have hsame := hfirst x hx
        rw [hkey, ← hxkey, isText_iff.mp hykey, Value.same, beq_self_eq_true] at hsame
        contradiction
      rw [if_pos hdn, hnone, Option.bind_some, hname, Option.bind_none]
    · rw [if_neg hdn]
      exact ih hrest
  | keep hkept h ih =>
    rw [lookup?_cons, lookup?_cons, hkept.1]
    split
    · exact text?_of_prunedItems hkept.2
    · exact ih (List.pairwise_cons.mp hdistinct).2

/-- What a record comes to, members and name. -/
theorem members?_of_pruned {record record' : Value}
    (h : Value.UnderTags PrunedMembers record record') :
    record'.members? = record.members? ∨ ∃ members members',
      record.members? = some members ∧ record'.members? = some members' ∧
      Pruned (fun _ => IdleMember) PrunedMember [] members members' := by
  rcases h.eq_or (f := Value.members?) fun _ _ => rfl with hsame | ⟨_, _, ⟨hmembers⟩, hm, hm'⟩
  · exact .inl hsame
  · exact .inr ⟨_, _, hm, hm', hmembers⟩

/-- A record does not lose its name with idle members. -/
theorem dnOf?_of_pruned {record record' : Value} (hdistinct : record.DistinctKeys)
    (h : Value.UnderTags PrunedMembers record record') : dnOf? record' = dnOf? record := by
  rcases members?_of_pruned h with hsame | ⟨members, members', hm, hm', hpruned⟩
  · rw [dnOf?, dnOf?, hsame]
  · rw [dnOf?, dnOf?, hm, hm', Option.bind_some, Option.bind_some]
    exact lookup?_dn_of_pruned hpruned (hdistinct.members hm).1

/-- A record does not lose any attribute with idle members. -/
theorem filterMap_attributeOf?_of_pruned (salt : Password.Salt) {members members' : List (Value × Value)}
    (h : Pruned (fun _ => IdleMember) PrunedMember [] members members') :
    (members'.filterMap fun (key, value) => attributeOf? salt key value) =
      members.filterMap fun (key, value) => attributeOf? salt key value := by
  refine h.filterMap_eq ?_ ?_
  · rintro - m (hkey | ⟨hscalar, hlist, -⟩)
    · exact attributeOf?_eq_none_of_key hkey
    · exact attributeOf?_eq_none_of_value (valuesOf?_eq_none_iff.mpr ⟨hscalar, hlist⟩)
  · rintro ⟨key, value⟩ ⟨key', value'⟩ - ⟨hkey, hvalue⟩
    cases hkey
    exact attributeOf?_of_pruned hvalue

/-- The entry of a record does not notice that the record has lost some idle members and items. -/
theorem entryOf?_of_pruned (salt : Password.Salt) {record record' : Value} (hdistinct : record.DistinctKeys)
    (h : Value.UnderTags PrunedMembers record record') :
    entryOf? salt record' = entryOf? salt record := by
  have hdn := dnOf?_of_pruned hdistinct h
  rcases members?_of_pruned h with hsame | ⟨members, members', hm, hm', hpruned⟩
  · rw [entryOf?, entryOf?, hsame, hdn]
  · have hattributes := filterMap_attributeOf?_of_pruned salt hpruned
    rw [entryOf?, entryOf?, hm, hm', hdn]
    cases dnOf? record with
    | none => rfl
    | some dn => simp only [hattributes]

-- ---------------------------------------------------------------------------
-- Lists of records
-- ---------------------------------------------------------------------------

/-- The first entries of each name, without those whose names are taken. -/
def newTo (taken : List String) (es : List Entry) : List Entry :=
  (firstOfEachName es).filter (·.dn ∉ taken)

theorem newTo_nil (es : List Entry) : newTo [] es = firstOfEachName es := by
  simp [newTo]

/-- The first entry is new unless its name is taken, and takes its name from those behind it. -/
theorem newTo_cons (taken : List String) (e : Entry) (es : List Entry) :
    newTo taken (e :: es) =
      (if e.dn ∈ taken then [] else [e]) ++ newTo (taken ++ [e.dn]) es := by
  have hrest : ((firstOfEachName es).filter (·.dn != e.dn)).filter (·.dn ∉ taken) =
      newTo (taken ++ [e.dn]) es := by
    rw [newTo, List.filter_filter]
    refine List.filter_congr fun f _ => ?_
    rw [Bool.eq_iff_iff]
    simp [and_comm]
  rw [newTo, firstOfEachName, List.filter_cons, hrest]
  split <;> simp_all

theorem newTo_congr {taken taken' : List String} (h : ∀ dn, dn ∈ taken ↔ dn ∈ taken')
    (es : List Entry) : newTo taken es = newTo taken' es := by
  simp only [newTo, h]

/-- The entries of two lists are those of the first one and those of the second one with names of
their own. -/
theorem newTo_append (taken : List String) (es fs : List Entry) :
    newTo taken (es ++ fs) = newTo taken es ++ newTo (taken ++ es.map (·.dn)) fs := by
  induction es generalizing taken with
  | nil =>
    have hnil : newTo taken [] = [] := rfl
    rw [hnil, List.nil_append, List.nil_append, List.map_nil, List.append_nil]
  | cons e es ih =>
    rw [List.cons_append, newTo_cons, newTo_cons, ih, List.map_cons, List.append_assoc,
      List.append_assoc, List.singleton_append]

/-- The names of the entries that records describe. -/
def namesOf (records : List Value) : List String := records.filterMap dnOf?

/-- A further record adds its name, if it has one. -/
theorem namesOf_concat (records : List Value) (record : Value) :
    namesOf (records ++ [record]) = namesOf records ++ (dnOf? record).toList := by
  rw [namesOf, namesOf, List.filterMap_append]
  cases h : dnOf? record <;> simp [h]

/-- A record describes no entry if and only if it has no name. -/
theorem entryOf?_eq_none_iff {record : Value} : entryOf? salt record = none ↔ dnOf? record = none := by
  constructor
  · intro h
    by_contra hdn
    obtain ⟨dn, hdn⟩ := Option.ne_none_iff_exists'.mp hdn
    obtain ⟨e, he, -⟩ := exists_entryOf?_of_dnOf? salt hdn
    rw [h] at he
    contradiction
  · intro h
    rw [entryOf?, h]
    cases record.members? <;> rfl

/-- The entries of a list of records do not notice that the list has lost some idle records: one of
them had the name of a record before it, so its entry is not new. -/
theorem newTo_of_pruned (salt : Password.Salt) {before records records' : List Value}
    (h : Pruned IdleRecord (Value.UnderTags PrunedMembers) before records records')
    (hdistinct : ∀ record ∈ records, record.DistinctKeys) :
    newTo (namesOf before) (records'.filterMap (entryOf? salt)) =
      newTo (namesOf before) (records.filterMap (entryOf? salt)) := by
  -- on what is left out; what is before each record stays what it was before anything was left out
  induction h with
  | nil => rfl
  | @drop before records records' record hidle h ih =>
    have ih := ih fun r hr => hdistinct r (List.mem_cons_of_mem _ hr)
    rw [namesOf_concat] at ih
    cases hdn : dnOf? record with
    | none =>
      rw [hdn, Option.toList_none, List.append_nil] at ih
      rw [List.filterMap_cons_none (entryOf?_eq_none_iff.mpr hdn), ih]
    | some dn =>
      obtain ⟨e, he, rfl⟩ := exists_entryOf?_of_dnOf? salt hdn
      rw [hdn, Option.toList_some] at ih
      -- a record that is idle and has a name has the name of an earlier one
      have htaken : e.dn ∈ namesOf before := by
        rcases hidle with hnone | hnone | ⟨earlier, hmem, hname⟩
        · rw [dnOf?, hnone] at hdn
          contradiction
        · rw [hnone] at hdn
          contradiction
        · exact List.mem_filterMap.mpr ⟨earlier, hmem, hname.trans hdn⟩
      have hsame : ∀ dn, dn ∈ namesOf before ↔ dn ∈ namesOf before ++ [e.dn] := by
        intro dn
        rw [List.mem_append, List.mem_singleton]
        exact ⟨.inl, fun hor => hor.elim id fun heq => heq ▸ htaken⟩
      rw [List.filterMap_cons_some he, newTo_cons, if_pos htaken, List.nil_append, ← ih,
        newTo_congr hsame]
  | @keep before records records' record record' hkept h ih =>
    have ih := ih fun r hr => hdistinct r (List.mem_cons_of_mem _ hr)
    have hentry := entryOf?_of_pruned salt (hdistinct record List.mem_cons_self) hkept
    rw [namesOf_concat] at ih
    rw [List.filterMap_cons, List.filterMap_cons, hentry]
    cases he : entryOf? salt record with
    | none =>
      rw [entryOf?_eq_none_iff.mp he, Option.toList_none, List.append_nil] at ih
      exact ih
    | some e =>
      obtain ⟨-, -, hdn, -⟩ := entryOf?_eq_some_iff.mp he
      rw [hdn, Option.toList_some] at ih
      simp only [newTo_cons, ih]

/-- All entries of a list of records are new to no entries. -/
theorem entriesOf_of_pruned {records records' : List Value}
    (h : Pruned IdleRecord (Value.UnderTags PrunedMembers) [] records records')
    (hdistinct : ∀ record ∈ records, record.DistinctKeys) :
    entriesOf salt records' = entriesOf salt records := by
  have hnew := newTo_of_pruned salt h hdistinct
  rwa [namesOf, List.filterMap_nil, newTo_nil, newTo_nil] at hnew

/-- The first entries of each name have the names of all. -/
theorem mem_names_firstOfEachName {es : List Entry} {dn : String} :
    dn ∈ (firstOfEachName es).map (·.dn) ↔ dn ∈ es.map (·.dn) := by
  have hfind := find?_firstOfEachName es dn
  have hmem : ∀ fs : List Entry, dn ∈ fs.map (·.dn) ↔ (fs.find? (·.dn == dn)).isSome = true := by
    intro fs
    simp
  rw [hmem, hmem, hfind]

/-- The entries of two lists of records. -/
theorem entriesOf_append (records more : List Value) :
    entriesOf salt (records ++ more) = entriesOf salt records ++
      (entriesOf salt more).filter fun f => f.dn ∉ (entriesOf salt records).map (·.dn) := by
  rw [entriesOf, List.filterMap_append, ← newTo_nil, newTo_append, newTo_nil, List.nil_append,
    newTo_congr fun dn => mem_names_firstOfEachName.symm]
  rfl

-- ---------------------------------------------------------------------------
-- Documents
-- ---------------------------------------------------------------------------

/-- What a list of users comes to, records and all. -/
theorem items?_of_pruned {users users' : Value} (h : Value.UnderTags PrunedRecords users users') :
    users'.items? = users.items? ∨ ∃ records records',
      users.items? = some records ∧ users'.items? = some records' ∧
      Pruned IdleRecord (Value.UnderTags PrunedMembers) [] records records' := by
  rcases h.eq_or (f := Value.items?) fun _ _ => rfl with hsame | ⟨_, _, ⟨hrecords⟩, hr, hr'⟩
  · exact .inl hsame
  · exact .inr ⟨_, _, hr, hr', hrecords⟩

/-- What a document comes to, members and all. -/
theorem documentMembers?_of_pruned {document document' : Value}
    (h : Value.UnderTags PrunedDocument document document') :
    document'.members? = document.members? ∨ ∃ members members',
      document.members? = some members ∧ document'.members? = some members' ∧
      List.Forall₂ (fun m m' => m'.1 = m.1 ∧ Value.UnderTags PrunedRecords m.2 m'.2)
        members members' := by
  rcases h.eq_or (f := Value.members?) fun _ _ => rfl with hsame | ⟨_, _, ⟨hmembers⟩, hm, hm'⟩
  · exact .inl hsame
  · exact .inr ⟨_, _, hm, hm', hmembers⟩

/-- Members with the same keys, and values that are related, are found alike. -/
theorem lookup?_of_forall₂ {R : Value → Value → Prop} {members members' : List (Value × Value)}
    (h : List.Forall₂ (fun m m' => m'.1 = m.1 ∧ R m.2 m'.2) members members') (key : String) :
    Option.Rel R (Value.lookup? members key) (Value.lookup? members' key) := by
  induction h with
  | nil => exact .none
  | cons hm _ ih =>
    rw [lookup?_cons, lookup?_cons, hm.1]
    split
    · exact .some hm.2
    · exact ih

/-- A document of which some records, members and items are left out loads as it does with them. -/
theorem load_of_pruned {document document' : Value} (hdistinct : document.DistinctKeys)
    (h : Value.UnderTags PrunedDocument document document') :
    load salt document' = load salt document := by
  rcases documentMembers?_of_pruned h with hsame | ⟨members, members', hm, hm', hpruned⟩
  · rw [load, load, recordsOf, recordsOf, hsame]
  · have husers := lookup?_of_forall₂ hpruned "users"
    rw [load, load, recordsOf, recordsOf, hm, hm', Option.bind_some, Option.bind_some]
    -- the list of users is looked up in both documents; where it is missing in one, it is in the
    -- other
    generalize hlookup : Value.lookup? members "users" = users at husers
    generalize Value.lookup? members' "users" = users' at husers
    cases husers with
    | none => rfl
    | @some users users' husers =>
      have hmem : ∃ key, (key, users) ∈ members := by
        obtain ⟨m, hfind, rfl⟩ := Option.map_eq_some_iff.mp hlookup
        exact ⟨m.1, List.mem_of_find?_eq_some hfind⟩
      obtain ⟨key, hmem⟩ := hmem
      have hinner : users.DistinctKeys := (hdistinct.members hm).2 _ hmem
      rcases items?_of_pruned husers with hsame | ⟨records, records', hr, hr', hrecords⟩
      · simp only [hsame]
      · simp only [hr, hr', Except.map]
        rw [entriesOf_of_pruned hrecords (hinner.items hr)]

/-- No document that was read has a key twice. Whatever idle records, members and items are left out
of such a document, at all depths and in any number, it loads as it does with them. And the records of
two documents, put together, give the entries of the first one and after them those of the second one
whose names the first has not. -/
theorem load_pruned (salt : Password.Salt) :
    (∀ source document, valueOf? source = some document → document.DistinctKeys) ∧
    (∀ document document', document.DistinctKeys →
      Value.UnderTags PrunedDocument document document' →
        load salt document' = load salt document) ∧
    ∀ document₁ document₂ document records₁ records₂, recordsOf document₁ = .ok records₁ →
      recordsOf document₂ = .ok records₂ → recordsOf document = .ok (records₁ ++ records₂) →
        ∃ es fs, load salt document₁ = .ok es ∧ load salt document₂ = .ok fs ∧
          load salt document = .ok (es ++ fs.filter fun f => f.dn ∉ es.map (·.dn)) := by
  refine ⟨fun _ _ => distinctKeys_of_valueOf?, fun _ _ => load_of_pruned, ?_⟩
  intro document₁ document₂ document records₁ records₂ h₁ h₂ h
  refine ⟨_, _, load_eq_ok_iff.mpr ⟨_, h₁, rfl⟩, load_eq_ok_iff.mpr ⟨_, h₂, rfl⟩, ?_⟩
  exact load_eq_ok_iff.mpr ⟨_, h, (entriesOf_append records₁ records₂).symm⟩

/-- A document without a record that is a text, a record whose name is taken, a member whose key is
no text, a password whose tag is not known, and an item that is nothing; and with one record more. -/
theorem load_pruned_everywhere :
    let salt : Password.Salt := ⟨[1, 2, 3, 4], rfl⟩
    let name : Value × Value := (.text "dn", .text "o=a")
    let passwords (items : List Value) : Value × Value := (.text "userPassword", .sequence items)
    let first : Value := .mapping [name, (.null, .text "b"), passwords [.text "\x7bMD5\x7db", .null]]
    let document : Value :=
      .mapping [(.text "users", .sequence [.text "o=b", first, .mapping [name]])]
    let document' : Value :=
      .mapping [(.text "users", .sequence [.mapping [name, passwords []]])]
    let more (records : List Value) : Value :=
      .mapping [(.text "users", .sequence (records ++ [.mapping [(.text "dn", .text "o=b")]]))]
    load salt document' = load salt document ∧
      load salt document' = .ok [⟨"o=a", [⟨"userPassword", []⟩]⟩] ∧
      ∃ es fs, load salt document' = .ok es ∧ load salt (more []) = .ok fs ∧
        load salt (more [.mapping [name, passwords []]]) =
          .ok (es ++ fs.filter fun f => f.dn ∉ es.map (·.dn)) := by
  intro salt name passwords first document document' more
  have hdistinct : document.DistinctKeys := by
    have hfirst : first.DistinctKeys := by
      refine .mapping (by simp [name, passwords, Value.same]) ?_ ?_
      · simp only [List.forall_mem_cons, List.not_mem_nil, false_imp_iff, implies_true, and_true]
        exact ⟨.text _, .null, .text _⟩
      · simp only [List.forall_mem_cons, List.not_mem_nil, false_imp_iff, implies_true, and_true]
        refine ⟨.text _, .text _, .sequence ?_⟩
        simp only [List.forall_mem_cons, List.not_mem_nil, false_imp_iff, implies_true, and_true]
        exact ⟨.text _, .null⟩
    have hsecond : Value.DistinctKeys (.mapping [name]) := by
      refine .mapping (List.pairwise_singleton _ _) ?_ ?_
      · exact List.forall_mem_singleton.mpr (.text _)
      · exact List.forall_mem_singleton.mpr (.text _)
    refine .mapping (List.pairwise_singleton _ _) ?_ ?_
    · exact List.forall_mem_singleton.mpr (.text _)
    · refine List.forall_mem_singleton.mpr (.sequence ?_)
      simp only [List.forall_mem_cons, List.not_mem_nil, false_imp_iff, implies_true, and_true]
      exact ⟨.text _, hfirst, hsecond⟩
  -- from the inside out: the items of the password, the members of the record, the records
  have hpruned : Value.UnderTags PrunedDocument document document' := by
    have hitems : Pruned (fun _ => IdleItem (.text "userPassword")) Eq []
        [.text "\x7bMD5\x7db", .null] [] := by
      have hkey : lowerCase "userPassword" = "userpassword" := by decide +kernel
      have hforeign : Password.IsForeign "\x7bMD5\x7db" := ⟨rfl, by decide⟩
      exact .drop (.inr ⟨_, _, rfl, hkey, rfl, hforeign⟩) (.drop (.inl id) (.nil _))
    have hmembers : Pruned (fun _ => IdleMember) PrunedMember []
        [name, (.null, .text "b"), passwords [.text "\x7bMD5\x7db", .null]] [name, passwords []] :=
      .keep ⟨rfl, .same _⟩ (.drop (.inl rfl) (.keep ⟨rfl, .content (.sequence hitems)⟩ (.nil _)))
    have hrecords : Pruned IdleRecord (Value.UnderTags PrunedMembers) []
        [.text "o=b", first, .mapping [name]] [.mapping [name, passwords []]] := by
      have htaken : IdleRecord [.text "o=b", first] (.mapping [name]) :=
        .inr (.inr ⟨first, by simp, rfl⟩)
      exact .drop (.inl rfl) (.keep (.content (.mapping hmembers)) (.drop htaken (.nil _)))
    exact .content (.mapping (.cons ⟨rfl, .content (.sequence hrecords)⟩ .nil))
  exact ⟨(load_pruned salt).2.1 document document' hdistinct hpruned, rfl,
    (load_pruned salt).2.2 document' (more []) (more [.mapping [name, passwords []]]) _ _ rfl rfl rfl⟩

/-- A name with a tag of its own names its record, so there is no entry without it, although its value
is no scalar and no list. -/
theorem load_without_tagged_dn :
    let salt : Password.Salt := ⟨[1, 2, 3, 4], rfl⟩
    let name : Value := .tagged "t" (.text "cn=a")
    let document : Value :=
      .mapping [(.text "users", .sequence [.mapping [(.text "dn", name), (.text "uid", .text "a")]])]
    let document' : Value :=
      .mapping [(.text "users", .sequence [.mapping [(.text "uid", .text "a")]])]
    (valueOf? "users:\n- dn: !t cn=a\n  uid: a\n").any (·.same document) = true ∧
      (valueOf? "users:\n- uid: a\n").any (·.same document') = true ∧
      ¬ IsScalar name ∧ ¬ IsList name ∧
      load salt document = .ok [⟨"cn=a", [⟨"uid", ["a"]⟩]⟩] ∧ load salt document' = .ok [] := by
  intro salt name document document'
  refine ⟨by decide +kernel, by decide +kernel, id, id, rfl, rfl⟩

end Users

end UserDirectory
