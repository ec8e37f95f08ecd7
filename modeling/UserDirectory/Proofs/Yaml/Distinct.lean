import UserDirectory.Yaml.Meaning

/-!
# UserDirectory — the keys of YAML mappings

No mapping that a YAML text gives has a key twice, however deep it is nested, whether it stands
among the keys or the values, and also if it was written once and is referred to.

## Results

* `Yaml.distinctKeys_of_valueOf?` — the value of a text has no key twice.
-/

namespace UserDirectory.Yaml

/-- Whether no mapping in the value has a key twice. -/
inductive Value.DistinctKeys : Value → Prop where
  | null : DistinctKeys .null
  | bool (b : Bool) : DistinctKeys (.bool b)
  | number (n : Numeral) : DistinctKeys (.number n)
  | text (s : String) : DistinctKeys (.text s)
  | sequence {items : List Value} (hitems : ∀ v ∈ items, v.DistinctKeys) :
      DistinctKeys (.sequence items)
  | mapping {members : List (Value × Value)}
      (hdistinct : members.Pairwise fun m m' => m.1.same m'.1 = false)
      (hkeys : ∀ m ∈ members, m.1.DistinctKeys) (hvalues : ∀ m ∈ members, m.2.DistinctKeys) :
      DistinctKeys (.mapping members)
  | tagged (tag : String) {value : Value} (h : value.DistinctKeys) :
      DistinctKeys (.tagged tag value)

/-- A value without its tags has no key twice either. -/
theorem Value.DistinctKeys.untagged {v : Value} (h : v.DistinctKeys) :
    v.untagged.DistinctKeys := by
  induction h with
  | tagged tag _ ih => exact ih
  | sequence hitems => exact .sequence hitems
  | mapping hdistinct hkeys hvalues => exact .mapping hdistinct hkeys hvalues
  | _ => constructor

/-- The items of a list have no key twice if the list has none. -/
theorem Value.DistinctKeys.items {v : Value} {items : List Value} (h : v.DistinctKeys)
    (hitems : v.items? = some items) : ∀ item ∈ items, item.DistinctKeys := by
  have huntagged := h.untagged
  rw [items?] at hitems
  split at hitems
  · next heq =>
    rw [heq, Option.some.inj hitems] at huntagged
    cases huntagged with
    | sequence hall => exact hall
  · contradiction

/-- The members of a mapping differ in their keys, and their values have no key twice. -/
theorem Value.DistinctKeys.members {v : Value} {members : List (Value × Value)}
    (h : v.DistinctKeys) (hmembers : v.members? = some members) :
    (members.Pairwise fun m m' => m.1.same m'.1 = false) ∧ ∀ m ∈ members, m.2.DistinctKeys := by
  have huntagged := h.untagged
  rw [members?] at hmembers
  split at hmembers
  · next heq =>
    rw [heq, Option.some.inj hmembers] at huntagged
    cases huntagged with
    | mapping hdistinct _ hvalues => exact ⟨hdistinct, hvalues⟩
  · contradiction

-- ---------------------------------------------------------------------------
-- Scalars
-- ---------------------------------------------------------------------------

/-- A plain scalar is no mapping. -/
theorem distinctKeys_of_plainValue? {text : List Char} {v : Value} (h : plainValue? text = some v) :
    v.DistinctKeys := by
  rw [plainValue?] at h
  split at h
  · cases h
    exact .null
  · split at h
    · cases h
      exact .bool _
    · split at h
      · cases h
        exact .number _
      · contradiction
      · split at h
        · cases h
          exact .text _
        · split at h
          · cases h
            exact .number _
          · cases h
            exact .text _

/-- A scalar without a tag is no mapping. -/
theorem distinctKeys_of_untaggedValue? {text : List Char} {style : Style} {v : Value}
    (h : untaggedValue? text style = some v) : v.DistinctKeys := by
  rw [untaggedValue?] at h
  split at h
  · exact distinctKeys_of_plainValue? h
  · rw [← Option.some.inj h]
    exact .text _

/-- What a tag makes of a scalar is no mapping. -/
theorem CoreTag.distinctKeys_of_value? {tag : CoreTag} {text : List Char} {v : Value}
    (h : tag.value? text = some v) : v.DistinctKeys := by
  cases tag with
  | bool =>
    obtain ⟨b, -, rfl⟩ := Option.map_eq_some_iff.mp h
    exact .bool b
  | int =>
    rw [value?] at h
    split at h
    · rw [← Option.some.inj h]
      exact .number _
    · contradiction
  | float =>
    obtain ⟨x, -, rfl⟩ := Option.map_eq_some_iff.mp h
    exact .number _
  | null =>
    rw [value?] at h
    split at h
    · rw [← Option.some.inj h]
      exact .null
    · contradiction

/-- A scalar is no mapping, whatever its tag and style. -/
theorem distinctKeys_of_scalarValue? {tag : Option Tag} {text : List Char} {style : Style}
    {v : Value} (h : scalarValue? tag text style = some v) : v.DistinctKeys := by
  rw [scalarValue?.eq_def] at h
  split at h
  · split at h
    · exact CoreTag.distinctKeys_of_value? h
    · split at h
      · exact distinctKeys_of_untaggedValue? h
      · rw [← Option.some.inj h]
        exact .text _
  · exact distinctKeys_of_untaggedValue? h

-- ---------------------------------------------------------------------------
-- Nodes
-- ---------------------------------------------------------------------------

/-- Whether a reading of nodes gives values without repeated keys only. -/
def Meaning.Distinct (value : Meaning) : Prop :=
  ∀ node jumps v jumps', value node jumps = some (v, jumps') → v.DistinctKeys

section Nested

variable {value : Meaning}

/-- The values of nodes in a row have no key twice. -/
theorem Meaning.Distinct.all (hvalue : value.Distinct) {nodes : List Node} {jumps jumps' : Nat}
    {vs : List Value} (h : value.all nodes jumps = some (vs, jumps')) :
    ∀ v ∈ vs, v.DistinctKeys := by
  induction nodes generalizing jumps vs with
  | nil =>
    cases h
    exact fun _ hv => absurd hv List.not_mem_nil
  | cons node nodes ih =>
    rw [Meaning.all] at h
    split at h
    · contradiction
    · next v jumps₁ hnode =>
      obtain ⟨⟨rest, jumps₂⟩, hrest, heq⟩ := Option.map_eq_some_iff.mp h
      cases heq
      exact List.forall_mem_cons.mpr ⟨hvalue _ _ _ _ hnode, ih hrest⟩

/-- The keys differ from each other and from those that were seen before. -/
theorem Meaning.Distinct.members (hvalue : value.Distinct) {seen ms : List (Value × Value)}
    {nodes : List (Node × Node)} {jumps jumps' : Nat}
    (h : value.members seen nodes jumps = some (ms, jumps')) :
    (∀ s ∈ seen, ∀ m ∈ ms, s.1.same m.1 = false) ∧
      (ms.Pairwise fun m m' => m.1.same m'.1 = false) ∧
      (∀ m ∈ ms, m.1.DistinctKeys) ∧ ∀ m ∈ ms, m.2.DistinctKeys := by
  -- on the members; each key is one more that has been seen by those behind it
  induction nodes generalizing seen jumps ms with
  | nil =>
    cases h
    simp
  | cons pair nodes ih =>
    obtain ⟨keyNode, valueNode⟩ := pair
    rw [Meaning.members] at h
    split at h
    · contradiction
    · next key jumps₁ hkey =>
      split at h
      · contradiction
      · next hnew =>
        split at h
        · contradiction
        · next v jumps₂ hv =>
          obtain ⟨⟨rest, jumps₃⟩, hrest, heq⟩ := Option.map_eq_some_iff.mp h
          cases heq
          obtain ⟨hseen, hdistinct, hkeys, hvalues⟩ := ih hrest
          have hnot : ∀ s ∈ seen, s.1.same key = false := by
            intro s hs
            rw [Bool.eq_false_iff]
            exact fun hsame => hnew (List.any_eq_true.mpr ⟨s, hs, hsame⟩)
          refine ⟨?_, ?_, ?_, ?_⟩
          · intro s hs
            exact List.forall_mem_cons.mpr ⟨hnot s hs, hseen s (List.mem_cons_of_mem _ hs)⟩
          · exact List.pairwise_cons.mpr ⟨hseen _ List.mem_cons_self, hdistinct⟩
          · exact List.forall_mem_cons.mpr ⟨hvalue _ _ _ _ hkey, hkeys⟩
          · exact List.forall_mem_cons.mpr ⟨hvalue _ _ _ _ hv, hvalues⟩

end Nested

section Inner

variable {inner : Option Meaning}

/-- The content of a node has no key twice if what is inside of it has none. -/
theorem distinct_contentOf (hinner : ∀ value, inner = some value → value.Distinct) :
    (contentOf inner).Distinct := by
  intro node jumps v jumps' h
  -- what is inside of a node is read one level further down, with distinct keys by assumption
  cases node with
  | scalar tag text style =>
    obtain ⟨v', hv, heq⟩ := Option.map_eq_some_iff.mp h
    cases heq
    exact distinctKeys_of_scalarValue? hv
  | sequence tag items =>
    obtain ⟨value, hvalue, h⟩ := Option.bind_eq_some_iff.mp h
    obtain ⟨⟨vs, jumps₁⟩, hall, heq⟩ := Option.map_eq_some_iff.mp h
    cases heq
    exact .sequence ((hinner value hvalue).all hall)
  | mapping tag members =>
    obtain ⟨value, hvalue, h⟩ := Option.bind_eq_some_iff.mp h
    obtain ⟨⟨ms, jumps₁⟩, hmembers, heq⟩ := Option.map_eq_some_iff.mp h
    cases heq
    obtain ⟨-, hdistinct, hkeys, hvalues⟩ := (hinner value hvalue).members hmembers
    exact .mapping hdistinct hkeys hvalues
  | «alias» number => contradiction

/-- A node with its tag has no key twice if what is inside of it has none. -/
theorem distinct_taggedOf (hinner : ∀ value, inner = some value → value.Distinct) :
    (taggedOf inner).Distinct := by
  intro node jumps v jumps' h
  rw [taggedOf] at h
  split at h
  · exact distinct_contentOf hinner _ _ _ _ h
  · next name _ =>
    obtain ⟨⟨v', jumps₁⟩, hcontent, heq⟩ := Option.map_eq_some_iff.mp h
    cases heq
    exact .tagged name (distinct_contentOf hinner _ _ _ _ hcontent)

end Inner

/-- The value of a node is what it gives itself or what the node gives that it refers to. -/
theorem exists_taggedOf_of_valueAt {anchors : Anchors} {depth : Nat} {node : Node} {jumps : Nat}
    {result : Value × Nat} (h : valueAt anchors depth node jumps = some result) :
    ∃ inner target jumps', (∀ value, inner = some value →
        ∃ d < depth, value = valueAt anchors d) ∧
      taggedOf inner target jumps' = some result := by
  rw [valueAt.eq_def] at h
  dsimp -zeta only at h
  extract_lets inner at h
  have hinner : ∀ value, inner = some value → ∃ d < depth, value = valueAt anchors d := by
    intro value hvalue
    cases depth with
    | zero => contradiction
    | succ d => exact ⟨d, Nat.lt_succ_self d, (Option.some.inj hvalue).symm⟩
  cases node with
  | «alias» number =>
    simp only at h
    split at h
    · contradiction
    · obtain ⟨target, -, h⟩ := Option.bind_eq_some_iff.mp h
      exact ⟨inner, target, _, hinner, h⟩
  | _ => exact ⟨inner, _, _, hinner, h⟩

/-- No node gives a value with a key twice, however deep and through whatever references. -/
theorem distinct_valueAt (anchors : Anchors) (depth : Nat) : (valueAt anchors depth).Distinct := by
  -- a reference may lead anywhere, but the nesting that is left gets less all the same
  induction depth using Nat.strongRecOn with
  | _ depth ih =>
    intro node jumps v jumps' h
    obtain ⟨inner, target, jumps₁, hinner, h⟩ := exists_taggedOf_of_valueAt h
    refine distinct_taggedOf ?_ _ _ _ _ h
    intro value hvalue
    obtain ⟨d, hd, rfl⟩ := hinner value hvalue
    exact ih d hd

/-- The value of a text has no key twice. -/
theorem distinctKeys_of_valueOf? {text : String} {v : Value} (h : valueOf? text = some v) :
    v.DistinctKeys := by
  rw [valueOf?] at h
  split at h
  · contradiction
  · rw [← Option.some.inj h]
    exact .null
  · next d _ =>
    obtain ⟨⟨v', jumps⟩, hv, rfl⟩ := Option.map_eq_some_iff.mp h
    exact distinct_valueAt d.anchors maxNesting _ _ _ _ hv

end UserDirectory.Yaml
