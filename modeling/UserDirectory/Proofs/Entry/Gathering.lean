import Mathlib.Data.List.Nodup
import Mathlib.Data.List.Perm.Basic
import UserDirectory.Proofs.Filter.Evaluation

/-!
# UserDirectory — attributes gathered for clients

The form of an entry for clients has one record for each logical attribute. Records are gathered one
after the other, and each looks for one of its name among those that are there. In which order it
looks makes no difference, because there is never more than one: `Gathers` leaves this order open.

## Results

* `Gathers.gathered`           — what is gathered, in whatever order records are looked for.
* `Entry.gathers_toSearchEntry` — the form for clients is gathered in this way.
* `Entry.values_of_gathered`   — an entry made of what was gathered has the same values.
* `Entry.toSearchEntry_agrees` — the form for clients and the values of logical attributes.
-/

namespace UserDirectory

open Text

theorem sameName_iff {a b : String} : sameName a b = true ↔ lowerCase a = lowerCase b := by
  rw [sameName, beq_iff_eq]

/-- The values of the records with the name. -/
def valuesNamed (attributes : List Attribute) (name : String) : List String :=
  (attributes.filter fun a => sameName a.name name).flatMap (·.values)

/-- The first record with the name. -/
def spelledFirst? (attributes : List Attribute) (name : String) : Option Attribute :=
  attributes.find? fun a => sameName a.name name

section

variable {attributes : List Attribute} {name name' : String} {a : Attribute}

theorem valuesNamed_congr (h : lowerCase name = lowerCase name') (attributes : List Attribute) :
    valuesNamed attributes name = valuesNamed attributes name' := by
  simp only [valuesNamed, sameName, h]

theorem spelledFirst?_congr (h : lowerCase name = lowerCase name') (attributes : List Attribute) :
    spelledFirst? attributes name = spelledFirst? attributes name' := by
  simp only [spelledFirst?, sameName, h]

theorem valuesNamed_concat_of_eq (h : lowerCase a.name = lowerCase name) :
    valuesNamed (attributes ++ [a]) name = valuesNamed attributes name ++ a.values := by
  simp [valuesNamed, List.filter_append, sameName, h]

theorem valuesNamed_concat_of_ne (h : lowerCase a.name ≠ lowerCase name) :
    valuesNamed (attributes ++ [a]) name = valuesNamed attributes name := by
  simp [valuesNamed, List.filter_append, sameName, h]

theorem spelledFirst?_concat_of_ne (h : lowerCase a.name ≠ lowerCase name) :
    spelledFirst? (attributes ++ [a]) name = spelledFirst? attributes name := by
  simp [spelledFirst?, List.find?_append, sameName, h]

theorem spelledFirst?_concat_of_some {b : Attribute} (h : spelledFirst? attributes name = some b) :
    spelledFirst? (attributes ++ [a]) name = some b := by
  rw [spelledFirst?] at h ⊢
  rw [List.find?_append, h, Option.some_or]

theorem spelledFirst?_eq_none_iff :
    spelledFirst? attributes name = none ↔ ∀ a ∈ attributes, lowerCase a.name ≠ lowerCase name := by
  simp [spelledFirst?, sameName]

theorem lowerCase_of_spelledFirst? (h : spelledFirst? attributes name = some a) :
    a ∈ attributes ∧ lowerCase a.name = lowerCase name := by
  rw [spelledFirst?] at h
  have hname := List.find?_some h
  exact ⟨List.mem_of_find?_eq_some h, sameName_iff.mp hname⟩

/-- A name that no record has has no values. -/
theorem valuesNamed_of_forall_ne (h : ∀ a ∈ attributes, lowerCase a.name ≠ lowerCase name) :
    valuesNamed attributes name = [] := by
  have hnone : attributes.filter (fun a => sameName a.name name) = [] := by
    rw [List.filter_eq_nil_iff]
    exact fun a ha hname => h a ha (sameName_iff.mp hname)
  rw [valuesNamed, hnone, List.flatMap_nil]

end

-- ---------------------------------------------------------------------------
-- Gathering
-- ---------------------------------------------------------------------------

/-- The ways to gather attributes: each record, in storage order, extends one of its name or is added
if there is none, and what has been gathered has no order. -/
inductive Gathers : List Attribute → List Attribute → Prop where
  | nil : Gathers [] []
  | extend {attributes front back : List Attribute} {a b : Attribute}
      (h : Gathers attributes (front ++ b :: back)) (hname : lowerCase b.name = lowerCase a.name) :
      Gathers (attributes ++ [a]) (front ++ ⟨b.name, b.values ++ a.values⟩ :: back)
  | add {attributes records : List Attribute} {a : Attribute} (h : Gathers attributes records)
      (hnew : ∀ b ∈ records, lowerCase b.name ≠ lowerCase a.name) :
      Gathers (attributes ++ [a]) (records ++ [a])
  | order {attributes records records' : List Attribute} (h : Gathers attributes records)
      (hperm : records.Perm records') : Gathers attributes records'

/-- Whether the record is the one that the attributes of its name are gathered in: it has the first
spelling of the name and the values of them all. -/
structure IsSummary (attributes : List Attribute) (r : Attribute) : Prop where
  name_eq : (spelledFirst? attributes r.name).map (·.name) = some r.name
  values_eq : r.values = valuesNamed attributes r.name

/-- What has been gathered: one record for each name, and nothing else. -/
structure Gathered (attributes records : List Attribute) : Prop where
  nodup : (records.map fun r => lowerCase r.name).Nodup
  mem_iff : ∀ r, r ∈ records ↔ IsSummary attributes r

section

variable {attributes records records' : List Attribute} {a b r : Attribute}

/-- A summary has a spelling that occurs among the attributes. -/
theorem IsSummary.lowerCase_mem (h : IsSummary attributes r) :
    ∃ a ∈ attributes, a.name = r.name := by
  obtain ⟨a, ha, hname⟩ := Option.map_eq_some_iff.mp h.name_eq
  exact ⟨a, (lowerCase_of_spelledFirst? ha).1, hname⟩

/-- Records of one name are the same record. -/
theorem IsSummary.eq_of_lowerCase_eq (h : IsSummary attributes r) {r' : Attribute}
    (h' : IsSummary attributes r') (hname : lowerCase r.name = lowerCase r'.name) : r = r' := by
  have hfirst := h.name_eq
  rw [spelledFirst?_congr hname, h'.name_eq, Option.some.injEq] at hfirst
  have hvalues := h.values_eq
  rw [valuesNamed_congr hname, ← h'.values_eq] at hvalues
  cases r
  cases r'
  cases hfirst
  cases hvalues
  rfl

/-- A further attribute changes nothing for summaries of other names. -/
theorem isSummary_concat_of_ne (h : lowerCase a.name ≠ lowerCase r.name) :
    IsSummary (attributes ++ [a]) r ↔ IsSummary attributes r := by
  -- both what is first and the values stay as they are
  constructor
  · rintro ⟨hname, hvalues⟩
    rw [spelledFirst?_concat_of_ne h] at hname
    rw [valuesNamed_concat_of_ne h] at hvalues
    exact ⟨hname, hvalues⟩
  · rintro ⟨hname, hvalues⟩
    rw [← spelledFirst?_concat_of_ne h] at hname
    rw [← valuesNamed_concat_of_ne h] at hvalues
    exact ⟨hname, hvalues⟩

/-- The summary of a name that a further attribute has, with its values at the end. -/
theorem IsSummary.extend (h : IsSummary attributes b) (hname : lowerCase b.name = lowerCase a.name) :
    IsSummary (attributes ++ [a]) ⟨b.name, b.values ++ a.values⟩ := by
  obtain ⟨c, hc, hspelling⟩ := Option.map_eq_some_iff.mp h.name_eq
  refine ⟨?_, ?_⟩
  · rw [spelledFirst?_concat_of_some hc, Option.map_some, hspelling]
  · rw [valuesNamed_concat_of_eq hname.symm, ← h.values_eq]

/-- An attribute of a new name is the summary of it. -/
theorem isSummary_concat_self (h : ∀ b ∈ attributes, lowerCase b.name ≠ lowerCase a.name) :
    IsSummary (attributes ++ [a]) a := by
  refine ⟨?_, ?_⟩
  · have hself : sameName a.name a.name = true := sameName_iff.mpr rfl
    have hnone := spelledFirst?_eq_none_iff.mpr h
    rw [spelledFirst?] at hnone ⊢
    rw [List.find?_append, hnone, Option.none_or, List.find?_singleton, hself]
    rfl
  · rw [valuesNamed_concat_of_eq rfl, valuesNamed_of_forall_ne h, List.nil_append]

/-- There is a record for each name that occurs. -/
theorem Gathered.exists_mem (h : Gathered attributes records) {a : Attribute}
    (ha : a ∈ attributes) : ∃ r ∈ records, lowerCase r.name = lowerCase a.name := by
  cases hfirst : spelledFirst? attributes a.name with
  | none => exact absurd rfl (spelledFirst?_eq_none_iff.mp hfirst a ha)
  | some b =>
    have hname := (lowerCase_of_spelledFirst? hfirst).2
    refine ⟨⟨b.name, valuesNamed attributes b.name⟩, (h.mem_iff _).mpr ⟨?_, rfl⟩, hname⟩
    rw [spelledFirst?_congr hname, hfirst, Option.map_some]

/-- From no attributes nothing is gathered. -/
theorem Gathered.nil : Gathered [] [] := by
  refine ⟨List.nodup_nil, fun r => ?_⟩
  simp only [List.not_mem_nil, false_iff]
  intro h
  obtain ⟨a, ha, -⟩ := h.lowerCase_mem
  exact absurd ha List.not_mem_nil

/-- What was gathered may be put in another order. -/
theorem Gathered.order (h : Gathered attributes records) (hperm : records.Perm records') :
    Gathered attributes records' where
  nodup := (hperm.map _).nodup_iff.mp h.nodup
  mem_iff r := by rw [← hperm.mem_iff, h.mem_iff]

/-- An attribute of a new name is gathered by adding it. -/
theorem Gathered.add (h : Gathered attributes records)
    (hnew : ∀ b ∈ records, lowerCase b.name ≠ lowerCase a.name) :
    Gathered (attributes ++ [a]) (records ++ [a]) where
  nodup := by
    rw [List.map_append, List.map_singleton, List.nodup_append]
    refine ⟨h.nodup, List.nodup_singleton _, ?_⟩
    intro n hn m hm
    obtain ⟨b, hb, rfl⟩ := List.mem_map.mp hn
    rw [List.mem_singleton.mp hm]
    exact hnew b hb
  mem_iff r := by
    -- names of attributes are those of records, so the name is new among the attributes too
    have hfresh : ∀ b ∈ attributes, lowerCase b.name ≠ lowerCase a.name := by
      intro b hb hname
      obtain ⟨s, hs, hsb⟩ := h.exists_mem hb
      exact hnew s hs (hsb.trans hname)
    rw [List.mem_append, List.mem_singleton]
    by_cases hname : lowerCase a.name = lowerCase r.name
    · constructor
      · rintro (hr | rfl)
        · exact absurd hname.symm (hnew r hr)
        · exact isSummary_concat_self hfresh
      · intro hr
        exact .inr (hr.eq_of_lowerCase_eq (isSummary_concat_self hfresh) hname.symm)
    · rw [isSummary_concat_of_ne hname, ← h.mem_iff]
      constructor
      · rintro (hr | rfl)
        · exact hr
        · exact absurd rfl hname
      · exact .inl

/-- An attribute of a name that has a record is gathered by extending that record. -/
theorem Gathered.extend {front back : List Attribute}
    (h : Gathered attributes (front ++ b :: back)) (hname : lowerCase b.name = lowerCase a.name) :
    Gathered (attributes ++ [a]) (front ++ ⟨b.name, b.values ++ a.values⟩ :: back) where
  nodup := by
    have hnodup := h.nodup
    rw [List.map_append, List.map_cons] at hnodup ⊢
    exact hnodup
  mem_iff r := by
    have hb : b ∈ front ++ b :: back := List.mem_append_right _ List.mem_cons_self
    have hlonger := ((h.mem_iff b).mp hb).extend hname
    -- the other records have other names
    have hothers : ∀ s, s ∈ front ∨ s ∈ back → lowerCase b.name ≠ lowerCase s.name := by
      have hnodup := h.nodup
      rw [List.map_append, List.map_cons, List.nodup_middle, List.nodup_cons] at hnodup
      intro s hs hsame
      refine hnodup.1 ?_
      rw [hsame, ← List.map_append]
      exact List.mem_map.mpr ⟨s, List.mem_append.mpr hs, rfl⟩
    rw [List.mem_append, List.mem_cons]
    by_cases hr : lowerCase a.name = lowerCase r.name
    · constructor
      · rintro (hfront | rfl | hback)
        · exact absurd (hname.trans hr) (hothers r (.inl hfront))
        · exact hlonger
        · exact absurd (hname.trans hr) (hothers r (.inr hback))
      · intro hsummary
        exact .inr (.inl (hsummary.eq_of_lowerCase_eq hlonger (hr.symm.trans hname.symm)))
    · rw [isSummary_concat_of_ne hr, ← h.mem_iff, List.mem_append, List.mem_cons]
      have hne : r ≠ b := by
        rintro rfl
        exact hr hname.symm
      have hne' : r ≠ ⟨b.name, b.values ++ a.values⟩ := by
        rintro rfl
        exact hr hname.symm
      simp only [hne, hne', false_or]

/-- What is gathered, in whatever order records are looked for. -/
theorem Gathers.gathered (h : Gathers attributes records) : Gathered attributes records := by
  -- one case for each way to gather: every step keeps that there is one summary for each name
  induction h with
  | nil => exact .nil
  | extend h hname ih => exact ih.extend hname
  | add h hnew ih => exact ih.add hnew
  | order h hperm ih => exact ih.order hperm

theorem Gathered.nodup_records (h : Gathered attributes records) : records.Nodup :=
  h.nodup.of_map _

theorem Gathered.perm (h : Gathered attributes records) (h' : Gathered attributes records') :
    records.Perm records' := by
  rw [List.perm_ext_iff_of_nodup h.nodup_records h'.nodup_records]
  intro r
  rw [h.mem_iff, h'.mem_iff]

end

-- ---------------------------------------------------------------------------
-- The form for clients
-- ---------------------------------------------------------------------------

/-- A record is gathered by extending the one of its name or by adding it. -/
theorem gather_eq_or (a : Attribute) (records : List Attribute) :
    (∃ front b back, records = front ++ b :: back ∧ lowerCase b.name = lowerCase a.name ∧
      gather a records = front ++ ⟨b.name, b.values ++ a.values⟩ :: back) ∨
    (∀ b ∈ records, lowerCase b.name ≠ lowerCase a.name) ∧ gather a records = records ++ [a] := by
  -- on the records looked at: the first of the name is extended, and others are passed over
  induction records with
  | nil => exact .inr ⟨fun b hb => absurd hb List.not_mem_nil, rfl⟩
  | cons c records ih =>
    rw [gather]
    by_cases hc : lowerCase c.name = lowerCase a.name
    · rw [if_pos (sameName_iff.mpr hc)]
      exact .inl ⟨[], c, records, rfl, hc, rfl⟩
    · rw [if_neg fun h => hc (sameName_iff.mp h)]
      rcases ih with ⟨front, b, back, rfl, hname, hgather⟩ | ⟨hnew, hgather⟩
      · exact .inl ⟨c :: front, b, back, rfl, hname, by rw [hgather, List.cons_append]⟩
      · refine .inr ⟨?_, by rw [hgather, List.cons_append]⟩
        intro b hb
        rcases List.mem_cons.mp hb with rfl | hb
        · exact hc
        · exact hnew b hb

/-- A step of the code is one of the ways to gather a further attribute. -/
theorem Gathers.gather_one {attributes records : List Attribute} (h : Gathers attributes records)
    (a : Attribute) : Gathers (attributes ++ [a]) (gather a records) := by
  rcases gather_eq_or a records with ⟨front, b, back, rfl, hname, hgather⟩ | ⟨hnew, hgather⟩
  · rw [hgather]
    exact h.extend hname
  · rw [hgather]
    exact h.add hnew

/-- All steps of the code, one after the other, are a way to gather all attributes. -/
theorem Gathers.foldl {attributes records : List Attribute} (h : Gathers attributes records)
    (more : List Attribute) :
    Gathers (attributes ++ more) (more.foldl (fun gathered a => gather a gathered) records) := by
  induction more generalizing attributes records with
  | nil =>
    rw [List.append_nil]
    exact h
  | cons a more ih =>
    rw [List.append_cons]
    exact ih (h.gather_one a)

namespace Entry

theorem gathers_toSearchEntry (e : Entry) : Gathers e.attributes e.toSearchEntry.attributes :=
  Gathers.nil.foldl e.attributes

variable {e : Entry} {records : List Attribute} {name : String}

/-- A name is stored if it is that of an attribute, in any spelling. -/
theorem stores_iff_exists_mem :
    e.stores name = true ↔ ∃ a ∈ e.attributes, lowerCase a.name = lowerCase name := by
  simp only [stores, List.any_eq_true, sameName_iff]

/-- The values of a name that is stored are those of its attributes, without the name of the
entry. -/
theorem values_of_stores (h : e.stores name = true) :
    e.values name = valuesNamed e.attributes name := by
  rw [values, h, Bool.not_true, Bool.false_and, if_neg Bool.false_ne_true, List.append_nil,
    valuesNamed]

/-- The one record of a name that is stored. -/
theorem exists_summary (h : Gathered e.attributes records) (hstored : e.stores name = true) :
    ∃ r ∈ records, lowerCase r.name = lowerCase name ∧
      (∀ r' ∈ records, lowerCase r'.name = lowerCase name → r' = r) ∧
      (spelledFirst? e.attributes name).map (·.name) = some r.name ∧ r.values = e.values name := by
  obtain ⟨a, ha, haname⟩ := stores_iff_exists_mem.mp hstored
  obtain ⟨r, hr, hrname⟩ := h.exists_mem ha
  have hname := hrname.trans haname
  have hsummary := (h.mem_iff r).mp hr
  refine ⟨r, hr, hname, fun r' hr' hname' => ?_, ?_, ?_⟩
  · exact ((h.mem_iff r').mp hr').eq_of_lowerCase_eq hsummary (hname'.trans hname.symm)
  · rw [← spelledFirst?_congr hname, hsummary.name_eq]
  · rw [values_of_stores hstored, ← valuesNamed_congr hname, ← hsummary.values_eq]

/-- What was gathered stores the same names. -/
theorem stores_of_gathered (h : Gathered e.attributes records) :
    (⟨e.dn, records⟩ : Entry).stores name = e.stores name := by
  rw [Bool.eq_iff_iff, stores_iff_exists_mem, stores_iff_exists_mem]
  constructor
  · rintro ⟨r, hr, hname⟩
    obtain ⟨a, ha, hspelling⟩ := ((h.mem_iff r).mp hr).lowerCase_mem
    exact ⟨a, ha, by rw [hspelling, hname]⟩
  · rintro ⟨a, ha, hname⟩
    obtain ⟨r, hr, hrname⟩ := h.exists_mem ha
    exact ⟨r, hr, hrname.trans hname⟩

/-- An entry made of what was gathered has the same values. -/
theorem values_of_gathered (h : Gathered e.attributes records) (name : String) :
    (⟨e.dn, records⟩ : Entry).values name = e.values name := by
  have hstores : (⟨e.dn, records⟩ : Entry).stores name = e.stores name := stores_of_gathered h
  by_cases hstored : e.stores name = true
  · obtain ⟨r, hr, hname, honly, -, hvalues⟩ := exists_summary h hstored
    -- only the one record of the name passes the filter
    have hfilter : records.filter (fun a => sameName a.name name) = [r] := by
      rw [← List.perm_singleton,
        List.perm_ext_iff_of_nodup (h.nodup_records.filter _) (List.nodup_singleton r)]
      intro r'
      rw [List.mem_filter, List.mem_singleton, sameName_iff]
      constructor
      · rintro ⟨hr', hname'⟩
        exact honly r' hr' hname'
      · rintro rfl
        exact ⟨hr, hname⟩
    rw [values_of_stores (hstores.trans hstored), valuesNamed, hfilter, List.flatMap_singleton,
      hvalues]
  · have hnone : ∀ e' : Entry, e'.stores name = e.stores name →
        e'.attributes.filter (fun a => sameName a.name name) = [] := by
      intro e' he'
      rw [List.filter_eq_nil_iff]
      intro a ha hname
      rw [← he', stores_iff_exists_mem] at hstored
      exact hstored ⟨a, ha, sameName_iff.mp hname⟩
    rw [values, values, hnone _ hstores, hnone e rfl, hstores]

end Entry

/-- Filters find an entry made of what was gathered if and only if they find the entry itself. -/
theorem Filter.evaluate_of_gathered {e : Entry} {records : List Attribute}
    (h : Gathered e.attributes records) (f : Filter) : f.evaluate ⟨e.dn, records⟩ = f.evaluate e := by
  refine evaluate_congr (fun name pattern => ?_) f
  rw [evaluate, evaluate, Entry.values_of_gathered h]

/-- In the form for clients no two names are the same in lower case. Each name that is stored has one
record, under its first spelling, with the values of the logical attribute in their order, and there
are no other records. The order in which records are looked for makes no difference but to the order
of those that are found. An entry made of them, in whatever order, has the values of the first one
under each name, and filters find both or neither. -/
theorem Entry.toSearchEntry_agrees (e : Entry) :
    e.toSearchEntry.dn = e.dn ∧
    (e.toSearchEntry.attributes.map fun r => lowerCase r.name).Nodup ∧
    (∀ name, e.stores name = true → ∃ r ∈ e.toSearchEntry.attributes,
      lowerCase r.name = lowerCase name ∧
      (∀ r' ∈ e.toSearchEntry.attributes, lowerCase r'.name = lowerCase name → r' = r) ∧
      (spelledFirst? e.attributes name).map (·.name) = some r.name ∧ r.values = e.values name) ∧
    (∀ r ∈ e.toSearchEntry.attributes, ∃ a ∈ e.attributes, a.name = r.name) ∧
    (∀ records, Gathers e.attributes records ↔ records.Perm e.toSearchEntry.attributes) ∧
    ∀ records, records.Perm e.toSearchEntry.attributes →
      (∀ name, (⟨e.dn, records⟩ : Entry).values name = e.values name) ∧
      ∀ f : Filter, f.evaluate ⟨e.dn, records⟩ = f.evaluate e := by
  have hgathers := e.gathers_toSearchEntry
  have hgathered := hgathers.gathered
  refine ⟨rfl, hgathered.nodup, fun name => exists_summary hgathered,
    fun r hr => ((hgathered.mem_iff r).mp hr).lowerCase_mem, fun records => ⟨?_, ?_⟩,
    fun records hperm => ?_⟩
  · exact fun h => h.gathered.perm hgathered
  · exact fun hperm => hgathers.order hperm.symm
  · have hrecords := hgathered.order hperm.symm
    exact ⟨values_of_gathered hrecords, Filter.evaluate_of_gathered hrecords⟩

/-- Two spellings of one name, and an attribute without values that takes the place of the name of the
entry, with the records in another order. -/
theorem Entry.toSearchEntry_agrees_spellings :
    let e : Entry := ⟨"cn=x", [⟨"ÉTAT", ["actif"]⟩, ⟨"DN", []⟩, ⟨"état", ["vérifié"]⟩]⟩
    let records : List Attribute := [⟨"DN", []⟩, ⟨"ÉTAT", ["actif", "vérifié"]⟩]
    e.stores "État" = true ∧
    (∃ r ∈ e.toSearchEntry.attributes, lowerCase r.name = lowerCase "État" ∧
      (∀ r' ∈ e.toSearchEntry.attributes, lowerCase r'.name = lowerCase "État" → r' = r) ∧
      (spelledFirst? e.attributes "État").map (·.name) = some r.name ∧
      r.values = e.values "État") ∧
    (⟨"DN", []⟩ : Attribute) ∈ e.toSearchEntry.attributes ∧ (∃ a ∈ e.attributes, a.name = "DN") ∧
    records.Perm e.toSearchEntry.attributes ∧ Gathers e.attributes records ∧
    (⟨"cn=x", records⟩ : Entry).values "dn" = e.values "dn" ∧
    ∀ f : Filter, f.evaluate ⟨"cn=x", records⟩ = f.evaluate e := by
  intro e records
  obtain ⟨-, -, hsummary, hothers, hgathers, hrebuilt⟩ := toSearchEntry_agrees e
  have hstored : e.stores "État" = true := by decide +kernel
  have hattributes : e.toSearchEntry.attributes =
      [⟨"ÉTAT", ["actif", "vérifié"]⟩, ⟨"DN", []⟩] := by decide +kernel
  have hmem : (⟨"DN", []⟩ : Attribute) ∈ e.toSearchEntry.attributes := by
    rw [hattributes]
    exact List.mem_cons_of_mem _ List.mem_cons_self
  have hperm : records.Perm e.toSearchEntry.attributes := by
    rw [hattributes]
    exact .swap _ _ _
  obtain ⟨hvalues, hevaluate⟩ := hrebuilt records hperm
  exact ⟨hstored, hsummary "État" hstored, hmem, hothers _ hmem, hperm,
    (hgathers records).mpr hperm, hvalues "dn", hevaluate⟩

end UserDirectory
