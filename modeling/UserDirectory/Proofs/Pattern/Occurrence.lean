import UserDirectory.Filter.Basic
import UserDirectory.Proofs.Pattern.Matching
import UserDirectory.Proofs.Text.Surroundings

/-!
# UserDirectory — patterns without wildcards

A pattern without operators and stars accepts the values in which its text occurs, both in lower
case. The pattern and the value are brought to lower case each on its own, so a sigma at an edge of
the pattern may end a word there and none in the value. Such a pattern does not accept every value
in which its text stands as it is written. All other patterns do.

## Results

* `Pattern.accepts_iff_isInfix` — the text of the pattern occurs in the value, in lower case.
* `Pattern.accepts_around_iff`  — which patterns accept all values in which their text stands.
-/

namespace UserDirectory

open Text

-- ---------------------------------------------------------------------------
-- Equalities
-- ---------------------------------------------------------------------------

/-- The letter case of a name does not matter to what is stored under it. -/
theorem Entry.values_lowerCase (e : Entry) (name : String) :
    e.values (lowerCase name) = e.values name := by
  have hstored : ∀ stored, sameName stored (lowerCase name) = sameName stored name := by
    intro stored
    rw [sameName, sameName, lowerCase_lowerCase]
  have hdn : sameName (lowerCase name) "dn" = sameName name "dn" := by
    rw [sameName, sameName, lowerCase_lowerCase]
  have hstores : e.stores (lowerCase name) = e.stores name := by
    simp only [stores, hstored]
  rw [values, values, hstores, hdn]
  simp only [hstored]

theorem Filter.evaluate_equals_iff {e : Entry} {name text : String} :
    (equals name text).evaluate e = true ↔
      ∃ value ∈ e.values name, (Pattern.ofText text).accepts value = true := by
  rw [equals, evaluate, Entry.values_lowerCase, List.any_eq_true]
  rfl

theorem Entry.values_single (dn name value : String) :
    Entry.values ⟨dn, [⟨name, [value]⟩]⟩ name = [value] := by
  simp [values, stores, sameName]

namespace Pattern

-- ---------------------------------------------------------------------------
-- Patterns
-- ---------------------------------------------------------------------------

section

variable {text : String} (hplain : ∀ c ∈ text.toList, c ∉ operators) (hstar : '*' ∉ text.toList)
  (hcompiled : (ofText text).matcher.regex?.isSome = true)

include hplain hstar hcompiled

/-- A pattern without stars accepts a value if its text occurs in it, both in lower case. -/
theorem accepts_iff_isInfix {value : String} :
    (ofText text).accepts value = true ↔ lowerChars text.toList <:+: lowerChars value.toList := by
  -- without stars there is one piece, which is looked for as it is
  have hsource : '*' ∉ (ofText text).source.toList := by
    rw [toList_source_ofText]
    rwa [mem_lowerChars_iff (by decide +kernel)]
  have hpresence : (ofText text).matcher.presence = false := by
    rw [← Bool.not_eq_true, presence_eq_true_iff]
    rintro ⟨hne, hall⟩
    obtain ⟨c, hc⟩ := List.exists_mem_of_ne_nil _ hne
    exact hsource (beq_iff_eq.mp (List.all_eq_true.mp hall c hc) ▸ hc)
  rw [accepts_iff (not_mem_operators_of_ofText hplain) hcompiled, hpresence,
    List.splitOn_eq_singleton hsource, toList_source_ofText]
  simp only [spaced_singleton_iff]
  constructor
  · rintro ⟨-, a, _, b, hvalue, rfl⟩
    exact ⟨a, b, hvalue.symm⟩
  · rintro ⟨a, b, hvalue⟩
    exact ⟨nofun, a, _, b, hvalue.symm, rfl⟩

/-- A pattern accepts all values in which its text stands if and only if the text is settled. -/
theorem settled_iff_forall_accepts :
    Settled text.toList ↔ ∀ a b : String, (ofText text).accepts (a ++ text ++ b) = true := by
  have haround : ∀ a b : String, (ofText text).accepts (a ++ text ++ b) = true ↔
      lowerChars text.toList <:+: lowerChars (a.toList ++ text.toList ++ b.toList) := by
    intro a b
    rw [accepts_iff_isInfix hplain hstar hcompiled, String.toList_append, String.toList_append]
  simp only [haround, settled_iff_forall_isInfix]
  constructor
  · exact fun h a b => h a.toList b.toList
  · intro h a b
    have hab := h (.ofList a) (.ofList b)
    rwa [String.toList_ofList, String.toList_ofList] at hab

/-- A settled text is found in every entry that has a value with the text in it, and no other text
is. -/
theorem settled_iff_forall_evaluate {name : String} :
    Settled text.toList ↔ ∀ (e : Entry) (a b : String), a ++ text ++ b ∈ e.values name →
      (Filter.equals name text).evaluate e = true := by
  rw [settled_iff_forall_accepts hplain hstar hcompiled]
  constructor
  · exact fun h e a b hvalue => Filter.evaluate_equals_iff.mpr ⟨_, hvalue, h a b⟩
  · intro h a b
    have hsingle := Entry.values_single "" name (a ++ text ++ b)
    have hmem : a ++ text ++ b ∈ Entry.values ⟨"", [⟨name, [a ++ text ++ b]⟩]⟩ name := by
      rw [hsingle]
      exact List.mem_singleton_self _
    have hfound := h _ a b hmem
    rw [Filter.evaluate_equals_iff, hsingle] at hfound
    obtain ⟨value, hvalue, haccepts⟩ := hfound
    rwa [List.mem_singleton.mp hvalue] at haccepts

end

/-- A pattern without operators and stars that has an expression accepts the values in which its
text occurs, both in lower case. It accepts every value in which the text stands as it is written,
and an equality finds every entry with such a value, if and only if it is settled by the text alone
which of its sigmas end a word. This is so for all texts without a capital sigma. -/
theorem accepts_around_iff (text : String) (hplain : ∀ c ∈ text.toList, c ∉ operators)
    (hstar : '*' ∉ text.toList) (hcompiled : (ofText text).matcher.regex?.isSome = true) :
    (∀ value, (ofText text).accepts value = true ↔
      (lowerCase text).toList <:+: (lowerCase value).toList) ∧
    ((∀ a b : String, (ofText text).accepts (a ++ text ++ b) = true) ↔ Settled text.toList) ∧
    (∀ name, (∀ (e : Entry) (a b : String), a ++ text ++ b ∈ e.values name →
      (Filter.equals name text).evaluate e = true) ↔ Settled text.toList) ∧
    ('Σ' ∉ text.toList → Settled text.toList) := by
  refine ⟨fun value => ?_, ?_, fun name => ?_, settled_of_not_mem⟩
  · rw [accepts_iff_isInfix hplain hstar hcompiled, lowerCase, lowerCase, String.toList_ofList,
      String.toList_ofList]
  · exact (settled_iff_forall_accepts hplain hstar hcompiled).symm
  · exact (settled_iff_forall_evaluate hplain hstar hcompiled).symm

/-- The sigma of `ΟΔΟΣ-` ends a word whatever is around it, so any entry with a value that goes on
behind the hyphen is found. -/
theorem accepts_around_hyphen :
    (∀ c ∈ "ΟΔΟΣ-".toList, c ∉ operators) ∧ '*' ∉ "ΟΔΟΣ-".toList ∧
    (ofText "ΟΔΟΣ-").matcher.regex?.isSome = true ∧ 'Σ' ∈ "ΟΔΟΣ-".toList ∧
    (∀ a b : String, (ofText "ΟΔΟΣ-").accepts (a ++ "ΟΔΟΣ-" ++ b) = true) ∧
    (Filter.equals "OU" "ΟΔΟΣ-").evaluate ⟨"ou=a", [⟨"ou", ["Η ΟΔΟΣ-ΗΜΑΝΣΗ"]⟩]⟩ = true := by
  have hplain : ∀ c ∈ "ΟΔΟΣ-".toList, c ∉ operators := forall_not_mem_operators_iff.mpr (by decide)
  have hstar : '*' ∉ "ΟΔΟΣ-".toList := by decide
  have hcompiled := isSome_regex?_ofText hplain (by decide +kernel)
  have hsettled : Settled "ΟΔΟΣ-".toList := by decide +kernel
  obtain ⟨-, haccepts, hfinds, -⟩ := accepts_around_iff _ hplain hstar hcompiled
  refine ⟨hplain, hstar, hcompiled, by decide, haccepts.mpr hsettled, ?_⟩
  refine (hfinds "OU").mpr hsettled _ "Η " "ΗΜΑΝΣΗ" ?_
  decide +kernel

/-- The sigma of `ΟΔΟΣ` ends a word there and none in `ΟΔΟΣΗΜΑΝΣΗ`, which is not accepted though it
starts with the text of the pattern. -/
theorem not_accepts_around_sigma :
    (∀ c ∈ "ΟΔΟΣ".toList, c ∉ operators) ∧ '*' ∉ "ΟΔΟΣ".toList ∧
    (ofText "ΟΔΟΣ").matcher.regex?.isSome = true ∧
    (ofText "ΟΔΟΣ").accepts ("" ++ "ΟΔΟΣ" ++ "ΗΜΑΝΣΗ") = false ∧
    (Filter.equals "ou" "ΟΔΟΣ").evaluate ⟨"ou=a", [⟨"ou", ["" ++ "ΟΔΟΣ" ++ "ΗΜΑΝΣΗ"]⟩]⟩ =
      false := by
  have hplain : ∀ c ∈ "ΟΔΟΣ".toList, c ∉ operators := forall_not_mem_operators_iff.mpr (by decide)
  have hstar : '*' ∉ "ΟΔΟΣ".toList := by decide
  have hcompiled := isSome_regex?_ofText hplain (by decide +kernel)
  have hnone : ¬ lowerChars "ΟΔΟΣ".toList <:+: lowerChars ("" ++ "ΟΔΟΣ" ++ "ΗΜΑΝΣΗ").toList := by
    decide +kernel
  have haccepts : (ofText "ΟΔΟΣ").accepts ("" ++ "ΟΔΟΣ" ++ "ΗΜΑΝΣΗ") = false := by
    rwa [← Bool.not_eq_true, accepts_iff_isInfix hplain hstar hcompiled]
  refine ⟨hplain, hstar, hcompiled, haccepts, ?_⟩
  rw [← Bool.not_eq_true, Filter.evaluate_equals_iff, Entry.values_single]
  rintro ⟨value, hvalue, hfound⟩
  rw [List.mem_singleton.mp hvalue, haccepts] at hfound
  exact Bool.false_ne_true hfound

end Pattern

end UserDirectory
