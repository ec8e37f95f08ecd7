import Mathlib.Data.List.Infix
import UserDirectory.Proofs.Text.Boundary
import UserDirectory.Service

/-!
# UserDirectory — names below names

To be within is an order on names, as far as letter case does not tell them apart. The empty base
stands above them all: nothing but itself has it below.

A name is cut into components at its commas. To be within a base, which is a test on the whole
texts, is the same as to have the components of the base as the last ones, each in lower case on its
own: a comma ends a word, so a name may be cut before or after it is brought to lower case. A base
that stands at the end of a name, but not behind a comma, does not have the name within it.

## Results

* `isWithin_iff`             — a name is within a base if it is the base, or has it behind a comma.
* `isWithin_trans`           — what is within a name is within all that the name is within.
* `components_lowerCase`     — names may be cut before or after they are brought to lower case.
* `components_suffix_iff`    — when the components of a name are the last ones of another.
* `isWithin_iff_components`  — what it is to be within a base, and what sort of order that is.
-/

namespace UserDirectory

open Text

-- ---------------------------------------------------------------------------
-- Names as texts
-- ---------------------------------------------------------------------------

theorem isWithin_iff {dn base : String} :
    isWithin dn base = true ↔ base = "" ∨ lowerChars dn.toList = lowerChars base.toList ∨
      ∃ front, lowerChars dn.toList = front ++ ',' :: lowerChars base.toList := by
  simp only [isWithin, Bool.or_eq_true, String.isEmpty_iff, beq_iff_eq, List.isSuffixOf_iff_suffix]
  refine or_congr_right (or_congr_right ?_)
  constructor
  · rintro ⟨front, h⟩
    exact ⟨front, h.symm⟩
  · rintro ⟨front, h⟩
    exact ⟨front, h.symm⟩

theorem isWithin_empty (dn : String) : isWithin dn "" = true := isWithin_iff.mpr (.inl rfl)

theorem isWithin_refl (dn : String) : isWithin dn dn = true := isWithin_iff.mpr (.inr (.inl rfl))

/-- Letter case makes no difference, in the name or in the base. -/
theorem isWithin_congr {dn dn' base base' : String} (hdn : lowerCase dn = lowerCase dn')
    (hbase : lowerCase base = lowerCase base') : isWithin dn base = isWithin dn' base' := by
  rw [lowerCase, lowerCase, String.ofList_inj] at hdn hbase
  rw [Bool.eq_iff_iff, isWithin_iff, isWithin_iff, ← lowerChars_toList_eq_nil_iff (s := base),
    ← lowerChars_toList_eq_nil_iff (s := base'), hdn, hbase]

/-- Only the empty base has the empty name within it. -/
theorem eq_empty_of_isWithin_empty {base : String} (h : isWithin "" base = true) : base = "" := by
  rcases isWithin_iff.mp h with h | h | ⟨front, h⟩
  · exact h
  · exact lowerChars_toList_eq_nil_iff.mp (h.symm.trans lowerChars_nil)
  · have hnil : lowerChars "".toList = [] := lowerChars_nil
    rw [hnil] at h
    simp at h

/-- What is within a name is within all that the name is within. -/
theorem isWithin_trans {a b c : String} (hab : isWithin a b = true) (hbc : isWithin b c = true) :
    isWithin a c = true := by
  rw [isWithin_iff]
  rcases isWithin_iff.mp hab with rfl | hab | ⟨front, hab⟩
  · exact .inl (eq_empty_of_isWithin_empty hbc)
  · rw [hab]
    exact isWithin_iff.mp hbc
  · rcases isWithin_iff.mp hbc with hbc | hbc | ⟨middle, hbc⟩
    · exact .inl hbc
    · rw [hbc] at hab
      exact .inr (.inr ⟨front, hab⟩)
    · rw [hbc] at hab
      exact .inr (.inr ⟨front ++ ',' :: middle, by rw [hab, List.append_assoc, List.cons_append]⟩)

-- ---------------------------------------------------------------------------
-- Components
-- ---------------------------------------------------------------------------

/-- The components of a name, from the innermost to the outermost. -/
def components (dn : String) : List String := (dn.toList.splitOn ',').map String.ofList

-- ---------------------------------------------------------------------------
-- Components in lower case
-- ---------------------------------------------------------------------------

theorem isBoundary_comma : isBoundary ',' = true := by decide +kernel

theorem splitOn_append_comma (front back : List Char) :
    (front ++ ',' :: back).splitOn ',' = front.splitOn ',' ++ back.splitOn ',' :=
  List.splitOnP_append_cons front back (beq_self_eq_true ',')

/-- A text may be cut at its commas before or after it is brought to lower case. The induction is on
the pieces. -/
theorem splitOn_lowerChars (cs : List Char) :
    (lowerChars cs).splitOn ',' = (cs.splitOn ',').map lowerChars := by
  induction hn : cs.length using Nat.strong_induction_on generalizing cs with
  | _ n ih =>
    by_cases hmem : ',' ∈ cs
    · obtain ⟨front, back, rfl⟩ := List.append_of_mem hmem
      rw [List.length_append, List.length_cons] at hn
      rw [lowerChars_append_cons isBoundary_comma, splitOn_append_comma, splitOn_append_comma,
        List.map_append, ih front.length (by omega) front rfl, ih back.length (by omega) back rfl]
    · have hlower : ',' ∉ lowerChars cs := by rwa [mem_lowerChars_iff isBoundary_comma]
      rw [List.splitOn_eq_singleton hmem, List.splitOn_eq_singleton hlower, List.map_singleton]

/-- A name may be cut into components before or after it is brought to lower case. -/
theorem components_lowerCase (dn : String) :
    components (lowerCase dn) = (components dn).map lowerCase := by
  have hcase : lowerCase ∘ String.ofList = String.ofList ∘ lowerChars := by
    funext cs
    rw [Function.comp_apply, Function.comp_apply, lowerCase, String.toList_ofList]
  rw [components, components, lowerCase, String.toList_ofList, splitOn_lowerChars, List.map_map,
    List.map_map, hcase]

-- ---------------------------------------------------------------------------
-- The last components
-- ---------------------------------------------------------------------------

/-- Pieces in front of others are cut off by a comma. -/
theorem exists_intercalate_append (piece : List Char) (pieces : List (List Char))
    {rest : List (List Char)} (hrest : rest ≠ []) :
    ∃ front, [','].intercalate (piece :: pieces ++ rest) =
      front ++ ',' :: [','].intercalate rest := by
  induction pieces generalizing piece with
  | nil =>
    obtain ⟨last, lasts, rfl⟩ := List.exists_cons_of_ne_nil hrest
    refine ⟨piece, ?_⟩
    rw [List.singleton_append, List.intercalate_cons_cons, List.append_assoc, List.singleton_append]
  | cons next pieces ih =>
    obtain ⟨front, hfront⟩ := ih next
    refine ⟨piece ++ ',' :: front, ?_⟩
    rw [List.cons_append, List.cons_append, List.intercalate_cons_cons, ← List.cons_append, hfront,
      List.append_assoc, List.append_assoc, List.singleton_append, List.cons_append]

/-- The pieces of a text are the last ones of another one if the texts are the same, or the other one
has the text behind one of its commas. -/
theorem splitOn_suffix_iff {cs ds : List Char} :
    cs.splitOn ',' <:+ ds.splitOn ',' ↔ ds = cs ∨ ∃ front, ds = front ++ ',' :: cs := by
  constructor
  · rintro ⟨pieces, hpieces⟩
    have hds : [','].intercalate (pieces ++ cs.splitOn ',') = ds := by
      rw [hpieces, List.intercalate_splitOn]
    -- with no pieces in front the texts are the same; otherwise the pieces end with a comma
    cases pieces with
    | nil =>
      rw [List.nil_append, List.intercalate_splitOn] at hds
      exact .inl hds.symm
    | cons piece pieces =>
      obtain ⟨front, hfront⟩ :=
        exists_intercalate_append piece pieces (List.splitOnP_ne_nil (· == ',') cs)
      rw [← List.splitOn, hds, List.intercalate_splitOn] at hfront
      exact .inr ⟨front, hfront⟩
  · rintro (rfl | ⟨front, rfl⟩)
    · exact List.suffix_rfl
    · rw [splitOn_append_comma]
      exact List.suffix_append _ _

/-- The components of a name are the last ones of another name if the names are the same, or the
other one has the name behind one of its commas. -/
theorem components_suffix_iff {dn base : String} :
    components base <:+ components dn ↔
      dn.toList = base.toList ∨ ∃ front, dn.toList = front ++ ',' :: base.toList := by
  have hinjective : Function.Injective String.ofList := fun _ _ => String.ofList_inj.mp
  rw [components, components, List.suffix_map_iff_of_injective hinjective, splitOn_suffix_iff]

-- ---------------------------------------------------------------------------
-- Names in the middle of a component
-- ---------------------------------------------------------------------------

/-- What comes before a text does not matter to how long it is in lower case. -/
theorem length_lowerFrom (before cs : List Char) :
    (lowerFrom before cs).length = (cs.flatMap lowerChar).length := by
  have hsigma : (lowerChar 'Σ').length = 1 := by decide +kernel
  fun_induction lowerFrom before cs with
  | case1 => rfl
  | case2 before after ih =>
    rw [List.length_cons, ih, List.flatMap_cons, List.length_append, hsigma, Nat.add_comm]
  | case3 before c after hc ih =>
    rw [List.length_append, ih, List.flatMap_cons, List.length_append]

theorem length_lowerChars_append (cs ds : List Char) :
    (lowerChars (cs ++ ds)).length = (lowerChars cs).length + (lowerChars ds).length := by
  rw [lowerChars, lowerChars, lowerChars, length_lowerFrom, length_lowerFrom, length_lowerFrom,
    List.flatMap_append, List.length_append]

/-- Two ends of a text that are the same in lower case are the same. -/
theorem append_inj_of_lowerChars_eq {a b c d : List Char} (h : a ++ b = c ++ d)
    (hlower : lowerChars b = lowerChars d) : a = c := by
  have hnil : ∀ {e f : List Char}, (lowerChars (e ++ f)).length = (lowerChars f).length → e = [] := by
    intro e f hlength
    rw [length_lowerChars_append, Nat.add_eq_right, List.length_eq_zero_iff] at hlength
    exact lowerFrom_eq_nil_iff.mp hlength
  rcases List.append_eq_append_iff.mp h with ⟨e, rfl, rfl⟩ | ⟨e, rfl, rfl⟩
  · rw [hnil (congrArg List.length hlower), List.append_nil]
  · rw [hnil (congrArg List.length hlower.symm), List.append_nil]

/-- A name that ends in a base, in whatever letter case, is within it only if the base stands behind
a comma. -/
theorem isWithin_append_iff {front back base : String} (hback : lowerCase back = lowerCase base)
    (hbase : base ≠ "") :
    isWithin (front ++ back) base = true ↔
      front = "" ∨ front.toList.getLast? = some ',' := by
  rw [lowerCase, lowerCase, String.ofList_inj] at hback
  rw [isWithin_iff, or_iff_right hbase, String.toList_append, ← hback]
  -- the forms in lower case have a common back, so that the fronts can be compared
  constructor
  · rintro (hsame | ⟨_, h⟩)
    · have hfront : front.toList = [] :=
        append_inj_of_lowerChars_eq (c := []) (d := front.toList ++ back.toList)
          (b := back.toList) rfl hsame.symm
      exact .inl (String.toList_eq_nil_iff.mp hfront)
    · obtain ⟨a, b, hsplit, -, hlower⟩ := (lowerChars_eq_append_cons_iff isBoundary_comma).mp h
      have hfront : front.toList = a ++ [','] :=
        append_inj_of_lowerChars_eq (d := b) (by rw [hsplit, List.append_assoc]; rfl) hlower.symm
      rw [hfront, List.getLast?_concat]
      exact .inr rfl
  · rintro (rfl | hlast)
    · exact .inl rfl
    · obtain ⟨a, ha⟩ := List.getLast?_eq_some_iff.mp hlast
      refine .inr ⟨lowerChars a, ?_⟩
      rw [ha, List.append_assoc, List.singleton_append, lowerChars_append_cons isBoundary_comma]

-- ---------------------------------------------------------------------------
-- The order of names
-- ---------------------------------------------------------------------------

/-- To be within a base is to have the components of the base as the last ones, in lower case. -/
theorem isWithin_iff_suffix {dn base : String} (hbase : base ≠ "") :
    isWithin dn base = true ↔
      (components base).map lowerCase <:+ (components dn).map lowerCase := by
  rw [isWithin_iff, or_iff_right hbase, ← components_lowerCase, ← components_lowerCase,
    components_suffix_iff]
  simp only [lowerCase, String.toList_ofList]

/-- Names that are within each other are the same but for letter case. -/
theorem lowerCase_eq_of_isWithin {a b : String} (hab : isWithin a b = true)
    (hba : isWithin b a = true) : lowerCase a = lowerCase b := by
  rw [lowerCase, lowerCase, String.ofList_inj]
  rcases isWithin_iff.mp hab with rfl | hsame | ⟨front, hbelow⟩
  · rw [eq_empty_of_isWithin_empty hba]
  · exact hsame
  · rcases isWithin_iff.mp hba with rfl | hsame | ⟨front', habove⟩
    · rw [eq_empty_of_isWithin_empty hab]
    · exact hsame.symm
    · -- each of them would be longer than the other one
      have hlonger := congrArg List.length hbelow
      have hshorter := congrArg List.length habove
      rw [List.length_append, List.length_cons] at hlonger hshorter
      omega

/-- Of two bases of a name, one is within the other. -/
theorem isWithin_or_isWithin {dn a b : String} (ha : isWithin dn a = true)
    (hb : isWithin dn b = true) : isWithin a b = true ∨ isWithin b a = true := by
  by_cases hae : a = ""
  · subst hae
    exact .inr (isWithin_empty b)
  by_cases hbe : b = ""
  · subst hbe
    exact .inl (isWithin_empty a)
  rw [isWithin_iff_suffix hae] at ha
  rw [isWithin_iff_suffix hbe] at hb
  rw [isWithin_iff_suffix hae, isWithin_iff_suffix hbe]
  exact List.suffix_or_suffix_of_suffix hb ha

/-- A name is within a base that is not empty if and only if the components of the base, each in
lower case on its own, are the last ones of the name. So a name is within itself; what is within a
name is within all that the name is within; names that are within each other are the same but for
letter case; of two bases of a name one is within the other; and a name that ends in the text of a
base in the middle of a component is not within it. -/
theorem isWithin_iff_components :
    (∀ dn base : String, base ≠ "" → (isWithin dn base = true ↔
      (components base).map lowerCase <:+ (components dn).map lowerCase)) ∧
    (∀ dn : String, isWithin dn dn = true) ∧
    (∀ a b c : String, isWithin a b = true → isWithin b c = true → isWithin a c = true) ∧
    (∀ a b : String, isWithin a b = true → isWithin b a = true → lowerCase a = lowerCase b) ∧
    (∀ dn a b : String, isWithin dn a = true → isWithin dn b = true →
      isWithin a b = true ∨ isWithin b a = true) ∧
    ∀ front back base : String, base ≠ "" → lowerCase back = lowerCase base → front ≠ "" →
      front.toList.getLast? ≠ some ',' → isWithin (front ++ back) base = false := by
  refine ⟨fun _ _ => isWithin_iff_suffix, isWithin_refl, fun _ _ _ => isWithin_trans,
    fun _ _ => lowerCase_eq_of_isWithin, fun _ _ _ => isWithin_or_isWithin, ?_⟩
  intro front back base hbase hback hfront hlast
  rw [← Bool.not_eq_true, isWithin_append_iff hback hbase]
  exact not_or.mpr ⟨hfront, hlast⟩

/-- Components are compared without regard to letter case, the empty ones in the middle and at the
end too. A base that is the end of a component only does not have the name within it. -/
theorem isWithin_iff_components_badexample :
    let name := "ou=ΟΔΟΣ,DC=Example,,dc=org,"
    let base := "dc=example,,DC=ORG,"
    let root := "dc=org,"
    components name = ["ou=ΟΔΟΣ", "DC=Example", "", "dc=org", ""] ∧
    isWithin name base = true ∧ isWithin base root = true ∧ isWithin name root = true ∧
    (isWithin base root = true ∨ isWithin root base = true) ∧
    lowerCase base = lowerCase "DC=EXAMPLE,,dc=org," ∧
    isWithin ("cn=bob,dc=bad" ++ "Example,dc=org") "example,dc=org" = false := by
  intro name base root
  obtain ⟨hwithin, -, htrans, hsame, hchain, hmiddle⟩ := isWithin_iff_components
  have hcomponents : components name = ["ou=ΟΔΟΣ", "DC=Example", "", "dc=org", ""] := by
    decide +kernel
  have hlower : (components name).map lowerCase = ["ou=οδος", "dc=example", "", "dc=org", ""] := by
    decide +kernel
  have hlowerBase : (components base).map lowerCase = ["dc=example", "", "dc=org", ""] := by
    decide +kernel
  have hlowerRoot : (components root).map lowerCase = ["dc=org", ""] := by decide +kernel
  have hlowerCapital : (components "DC=EXAMPLE,,dc=org,").map lowerCase =
      ["dc=example", "", "dc=org", ""] := by decide +kernel
  have hbase : isWithin name base = true := by
    rw [hwithin _ _ (by decide), hlower, hlowerBase]
    exact List.suffix_append ["ou=οδος"] _
  have hroot : isWithin base root = true := by
    rw [hwithin _ _ (by decide), hlowerBase, hlowerRoot]
    exact List.suffix_append ["dc=example", ""] _
  have hname := htrans _ _ _ hbase hroot
  refine ⟨hcomponents, hbase, hroot, hname, hchain _ _ _ hbase hname, hsame _ _ ?_ ?_, ?_⟩
  · rw [hwithin _ _ (by decide), hlowerBase, hlowerCapital]
  · rw [hwithin _ _ (by decide), hlowerBase, hlowerCapital]
  · exact hmiddle _ _ _ (by decide) (by decide +kernel) (by decide) (by decide)

end UserDirectory
