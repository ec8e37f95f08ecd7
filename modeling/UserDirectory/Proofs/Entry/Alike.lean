import Mathlib.Data.List.Perm.Basic
import Mathlib.Logic.Relation
import UserDirectory.Entry

/-!
# UserDirectory — entries that say the same

An entry may be stored in many ways: its attributes and their values in another order, a value
twice, one attribute in several records, anything in other letter case. What it says are names and
values in lower case, and which values go with which name; two entries are alike if they say the
same.

## Results

* `Entry.exists_mem_values_iff`   — what a logical attribute holds, said of what is stored.
* `Entry.Rewording.alike`         — to store an entry in another way makes an entry that is alike.
-/

namespace UserDirectory

open Text

/-- Whether one of the values is `value` in lower case. -/
def Attribute.HasValue (a : Attribute) (value : String) : Prop :=
  ∃ v ∈ a.values, lowerCase v = value

namespace Entry

/-- Whether an attribute is stored whose name is `name` in lower case. -/
def HasAttribute (e : Entry) (name : String) : Prop :=
  ∃ a ∈ e.attributes, lowerCase a.name = name

/-- Whether a value is stored that is `value` in lower case, and its name `name`. -/
def HasValue (e : Entry) (name value : String) : Prop :=
  ∃ a ∈ e.attributes, lowerCase a.name = name ∧ a.HasValue value

/-- Whether two entries say the same, in lower case. -/
structure Alike (e₁ e₂ : Entry) : Prop where
  dn_eq : lowerCase e₁.dn = lowerCase e₂.dn
  /-- An attribute without values counts: it takes the place of the name of the entry. -/
  hasAttribute_iff : ∀ name, e₁.HasAttribute name ↔ e₂.HasAttribute name
  hasValue_iff : ∀ name value, e₁.HasValue name value ↔ e₂.HasValue name value

theorem Alike.refl (e : Entry) : e.Alike e := ⟨rfl, fun _ => Iff.rfl, fun _ _ => Iff.rfl⟩

theorem Alike.symm {e₁ e₂ : Entry} (h : e₁.Alike e₂) : e₂.Alike e₁ where
  dn_eq := h.dn_eq.symm
  hasAttribute_iff name := (h.hasAttribute_iff name).symm
  hasValue_iff name value := (h.hasValue_iff name value).symm

theorem Alike.trans {e₁ e₂ e₃ : Entry} (h : e₁.Alike e₂) (h' : e₂.Alike e₃) : e₁.Alike e₃ where
  dn_eq := h.dn_eq.trans h'.dn_eq
  hasAttribute_iff name := (h.hasAttribute_iff name).trans (h'.hasAttribute_iff name)
  hasValue_iff name value := (h.hasValue_iff name value).trans (h'.hasValue_iff name value)

-- ---------------------------------------------------------------------------
-- What a logical attribute holds
-- ---------------------------------------------------------------------------

theorem stores_iff {e : Entry} {name : String} :
    e.stores name = true ↔ e.HasAttribute (lowerCase name) := by
  simp only [stores, sameName, List.any_eq_true, beq_iff_eq, HasAttribute]

/-- The values of a logical attribute in lower case: those that are stored under its name, and the
name of the entry for `dn` if there is no such attribute. -/
theorem exists_mem_values_iff {e : Entry} {name value : String} :
    (∃ v ∈ e.values name, lowerCase v = value) ↔
      e.HasValue (lowerCase name) value ∨
        (¬ e.HasAttribute (lowerCase name) ∧ lowerCase name = lowerCase "dn") ∧
          lowerCase e.dn = value := by
  have hstored : (∃ v ∈ (e.attributes.filter fun a => sameName a.name name).flatMap (·.values),
      lowerCase v = value) ↔ e.HasValue (lowerCase name) value := by
    simp only [List.mem_flatMap, List.mem_filter, sameName, beq_iff_eq, HasValue,
      Attribute.HasValue]
    constructor
    · rintro ⟨v, ⟨a, ⟨ha, hname⟩, hv⟩, hlower⟩
      exact ⟨a, ha, hname, v, hv, hlower⟩
    · rintro ⟨a, ha, hname, v, hv, hlower⟩
      exact ⟨v, ⟨a, ⟨ha, hname⟩, hv⟩, hlower⟩
  -- the name of the entry is added just if nothing is stored under it
  have hcond : (!e.stores name && sameName name "dn") = true ↔
      ¬ e.HasAttribute (lowerCase name) ∧ lowerCase name = lowerCase "dn" := by
    rw [Bool.and_eq_true, Bool.not_eq_true', ← Bool.not_eq_true, stores_iff, sameName, beq_iff_eq]
  rw [values, ← hcond, ← hstored]
  simp only [List.mem_append, or_and_right, exists_or]
  refine or_congr_right ?_
  split
  · next hdn => simp [hdn]
  · next hdn => simp [hdn]

/-- Entries that say the same have the same values in lower case. -/
theorem Alike.exists_mem_values_iff {e₁ e₂ : Entry} (h : e₁.Alike e₂) (name value : String) :
    (∃ v ∈ e₁.values name, lowerCase v = value) ↔ ∃ v ∈ e₂.values name, lowerCase v = value := by
  rw [Entry.exists_mem_values_iff, Entry.exists_mem_values_iff, h.hasValue_iff,
    h.hasAttribute_iff, h.dn_eq]

end Entry

-- ---------------------------------------------------------------------------
-- Other ways to store an entry
-- ---------------------------------------------------------------------------

/-- Other ways to store an attribute in one record. -/
inductive Attribute.Rewording : Attribute → Attribute → Prop where
  /-- The name in other letter case. -/
  | name {name name' : String} {values : List String} (h : lowerCase name = lowerCase name') :
      Rewording ⟨name, values⟩ ⟨name', values⟩
  /-- A value in other letter case. -/
  | value {name v v' : String} {front back : List String} (h : lowerCase v = lowerCase v') :
      Rewording ⟨name, front ++ v :: back⟩ ⟨name, front ++ v' :: back⟩
  /-- The values in another order. -/
  | order {name : String} {values values' : List String} (h : values.Perm values') :
      Rewording ⟨name, values⟩ ⟨name, values'⟩
  /-- A value once more. -/
  | repetition {name v : String} {values : List String} :
      Rewording ⟨name, v :: values⟩ ⟨name, v :: v :: values⟩

/-- Other ways to store an entry. -/
inductive Entry.Rewording : Entry → Entry → Prop where
  /-- The name in other letter case. -/
  | dn {dn dn' : String} {attributes : List Attribute} (h : lowerCase dn = lowerCase dn') :
      Rewording ⟨dn, attributes⟩ ⟨dn', attributes⟩
  /-- An attribute stored in another way. -/
  | record {dn : String} {front back : List Attribute} {a a' : Attribute} (h : a.Rewording a') :
      Rewording ⟨dn, front ++ a :: back⟩ ⟨dn, front ++ a' :: back⟩
  /-- The attributes in another order. -/
  | order {dn : String} {attributes attributes' : List Attribute}
      (h : attributes.Perm attributes') : Rewording ⟨dn, attributes⟩ ⟨dn, attributes'⟩
  /-- One attribute in two records, with the name spelled in two ways. -/
  | split {dn name name' : String} {values values' : List String} {front back : List Attribute}
      (h : lowerCase name = lowerCase name') :
      Rewording ⟨dn, front ++ ⟨name, values ++ values'⟩ :: back⟩
        ⟨dn, front ++ ⟨name, values⟩ :: ⟨name', values'⟩ :: back⟩

/-- An attribute that is stored in another way has the same name in lower case. -/
theorem Attribute.Rewording.lowerCase_name {a a' : Attribute} (h : a.Rewording a') :
    lowerCase a.name = lowerCase a'.name := by
  cases h with
  | name h => exact h
  | value _ => rfl
  | order _ => rfl
  | repetition => rfl

/-- An attribute that is stored in another way has the same values in lower case. -/
theorem Attribute.Rewording.hasValue_iff {a a' : Attribute} (h : a.Rewording a')
    (value : String) : a.HasValue value ↔ a'.HasValue value := by
  cases h with
  | name _ => exact Iff.rfl
  | value h => simp [HasValue, or_and_right, exists_or, h]
  | order h => simp only [HasValue, h.mem_iff]
  | repetition => simp [HasValue]

/-- To store an entry in another way makes an entry that is alike. -/
theorem Entry.Rewording.alike {e e' : Entry} (h : e.Rewording e') : e.Alike e' := by
  cases h with
  | dn h => exact ⟨h, fun _ => Iff.rfl, fun _ _ => Iff.rfl⟩
  | record h =>
    refine ⟨rfl, fun name => ?_, fun name value => ?_⟩
    · simp [HasAttribute, or_and_right, exists_or, h.lowerCase_name]
    · simp [HasValue, or_and_right, exists_or, h.lowerCase_name, h.hasValue_iff]
  | order h =>
    refine ⟨rfl, fun name => ?_, fun name value => ?_⟩
    · simp only [HasAttribute, h.mem_iff]
    · simp only [HasValue, h.mem_iff]
  | @split dn name name' values values' front back h =>
    refine ⟨rfl, fun sought => ?_, fun sought value => ?_⟩
    · simp [HasAttribute, or_and_right, exists_or, h]
    · have hvalues : Attribute.HasValue ⟨name, values ++ values'⟩ value ↔
          Attribute.HasValue ⟨name, values⟩ value ∨ Attribute.HasValue ⟨name', values'⟩ value := by
        simp [Attribute.HasValue, or_and_right, exists_or]
      simp [HasValue, or_and_right, exists_or, and_or_left, or_assoc, h, hvalues]

/-- Any number of such changes, made or taken back, leaves an entry alike. -/
theorem Entry.alike_of_eqvGen {e e' : Entry} (h : Relation.EqvGen Entry.Rewording e e') :
    e.Alike e' := by
  induction h with
  | rel e e' h => exact h.alike
  | refl e => exact .refl e
  | symm e e' _ ih => exact ih.symm
  | trans e e' e'' _ _ ih ih' => exact ih.trans ih'

end UserDirectory
