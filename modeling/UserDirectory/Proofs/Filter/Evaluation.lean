import UserDirectory.Proofs.Entry.Alike
import UserDirectory.Proofs.Pattern.Matching
import UserDirectory.Directory

/-!
# UserDirectory — what filters look at

A filter looks at an entry through its equalities, and an equality looks at the values of a logical
attribute in lower case, whatever their order and however often they occur. So a filter finds both
or neither of two entries that say the same.

## Results

* `Filter.evaluate_congr`     — filters agree on two entries if all equalities do.
* `Filter.evaluate_of_alike`  — filters agree on entries that are alike, and so do searches.
-/

namespace UserDirectory

open Text

namespace Filter

-- ---------------------------------------------------------------------------
-- Evaluation
-- ---------------------------------------------------------------------------

section

variable {e₁ e₂ : Entry}

mutual

/-- Filters agree on two entries if all equalities do. -/
theorem evaluate_congr (h : ∀ name pattern,
    evaluate e₁ (.equality name pattern) = evaluate e₂ (.equality name pattern)) :
    ∀ f : Filter, evaluate e₁ f = evaluate e₂ f
  | .equality name pattern => h name pattern
  | .conjunction members => by
    rw [evaluate, evaluate, evaluateAll_congr h members]
  | .disjunction members => by
    rw [evaluate, evaluate, evaluateAny_congr h members]
  | .negation member => by
    rw [evaluate, evaluate, evaluate_congr h member]

theorem evaluateAll_congr (h : ∀ name pattern,
    evaluate e₁ (.equality name pattern) = evaluate e₂ (.equality name pattern)) :
    ∀ members : List Filter, evaluateAll e₁ members = evaluateAll e₂ members
  | [] => rfl
  | f :: fs => by
    rw [evaluateAll, evaluateAll, evaluate_congr h f, evaluateAll_congr h fs]

theorem evaluateAny_congr (h : ∀ name pattern,
    evaluate e₁ (.equality name pattern) = evaluate e₂ (.equality name pattern)) :
    ∀ members : List Filter, evaluateAny e₁ members = evaluateAny e₂ members
  | [] => rfl
  | f :: fs => by
    rw [evaluateAny, evaluateAny, evaluate_congr h f, evaluateAny_congr h fs]

end

end

/-- An equality looks at the values in lower case. -/
theorem evaluate_equality_iff {e : Entry} {name : String} {pattern : Pattern} :
    evaluate e (.equality name pattern) = true ↔
      ∃ value, (∃ v ∈ e.values name, lowerCase v = value) ∧
        pattern.matcher.accepts value = true := by
  rw [evaluate, List.any_eq_true]
  constructor
  · rintro ⟨v, hv, haccepts⟩
    exact ⟨lowerCase v, ⟨v, hv, rfl⟩, (pattern.matcher.accepts_lowerCase v).trans haccepts⟩
  · rintro ⟨_, ⟨v, hv, rfl⟩, haccepts⟩
    exact ⟨v, hv, (pattern.matcher.accepts_lowerCase v).symm.trans haccepts⟩

theorem evaluate_eq_of_alike {e₁ e₂ : Entry} (h : e₁.Alike e₂) (f : Filter) :
    f.evaluate e₁ = f.evaluate e₂ := by
  refine evaluate_congr (fun name pattern => ?_) f
  rw [Bool.eq_iff_iff, evaluate_equality_iff, evaluate_equality_iff]
  simp only [h.exists_mem_values_iff]

-- ---------------------------------------------------------------------------
-- Searches
-- ---------------------------------------------------------------------------

/-- Searches find the same ones of entries that are alike one by one. -/
theorem search_of_alike {s₁ s₂ : Snapshot} (h : List.Forall₂ Entry.Alike s₁.entries s₂.entries)
    (f : Filter) :
    List.Forall₂ Entry.Alike (s₁.search f) (s₂.search f) ∧
      (s₁.entries.map fun e => f.evaluate e) = s₂.entries.map fun e => f.evaluate e := by
  refine ⟨List.rel_filter (fun e₁ e₂ halike => ?_) h, ?_⟩
  · exact Bool.eq_iff_iff.mp (evaluate_eq_of_alike halike f)
  · rw [← List.forall₂_eq_eq_eq, List.forall₂_map_left_iff, List.forall₂_map_right_iff]
    exact h.imp fun e₁ e₂ halike => evaluate_eq_of_alike halike f

/-- Every filter finds both or neither of two entries that say the same in lower case. To store an
entry in another way, in any number of steps, keeps what it says. So a search finds the same ones
of entries that say the same, one by one. -/
theorem evaluate_of_alike :
    (∀ e₁ e₂ : Entry, e₁.Alike e₂ → ∀ f : Filter, f.evaluate e₁ = f.evaluate e₂) ∧
    (∀ e₁ e₂ : Entry, Relation.EqvGen Entry.Rewording e₁ e₂ → e₁.Alike e₂) ∧
    ∀ s₁ s₂ : Snapshot, List.Forall₂ Entry.Alike s₁.entries s₂.entries → ∀ f : Filter,
      List.Forall₂ Entry.Alike (s₁.search f) (s₂.search f) ∧
        (s₁.entries.map fun e => f.evaluate e) = s₂.entries.map fun e => f.evaluate e :=
  ⟨fun _ _ => evaluate_eq_of_alike, fun _ _ => Entry.alike_of_eqvGen, fun _ _ => search_of_alike⟩

/-- An attribute that is stored in two records, which come in another order, of an entry whose name
has other letter case. -/
theorem evaluate_of_alike_split :
    let e₁ : Entry := ⟨"cn=Bob", [⟨"uid", ["bob", "Robert"]⟩]⟩
    let e₂ : Entry := ⟨"CN=BOB", [⟨"UID", ["Robert"]⟩, ⟨"uid", ["bob"]⟩]⟩
    e₁.Alike e₂ ∧ (∀ f : Filter, f.evaluate e₁ = f.evaluate e₂) ∧
      ∀ f : Filter, List.Forall₂ Entry.Alike ((⟨[e₁], 1, some 0⟩ : Snapshot).search f)
        ((⟨[e₂], 1, some 0⟩ : Snapshot).search f) := by
  intro e₁ e₂
  obtain ⟨hevaluate, hreworded, hsearch⟩ := evaluate_of_alike
  have hsplit : Entry.Rewording e₁ ⟨"cn=Bob", [⟨"uid", ["bob"]⟩, ⟨"UID", ["Robert"]⟩]⟩ :=
    @Entry.Rewording.split "cn=Bob" "uid" "UID" ["bob"] ["Robert"] [] [] (by decide +kernel)
  have horder : Entry.Rewording ⟨"cn=Bob", [⟨"uid", ["bob"]⟩, ⟨"UID", ["Robert"]⟩]⟩
      ⟨"cn=Bob", e₂.attributes⟩ := .order (.swap _ _ _)
  have hdn : Entry.Rewording ⟨"cn=Bob", e₂.attributes⟩ e₂ := .dn (by decide +kernel)
  have halike : e₁.Alike e₂ :=
    hreworded e₁ e₂ (.trans _ _ _ (.rel _ _ hsplit) (.trans _ _ _ (.rel _ _ horder) (.rel _ _ hdn)))
  refine ⟨halike, hevaluate e₁ e₂ halike, fun f => ?_⟩
  exact (hsearch ⟨[e₁], 1, some 0⟩ ⟨[e₂], 1, some 0⟩ (.cons halike .nil) f).1

end Filter

end UserDirectory
