import Mathlib.Data.Nat.Init
import UserDirectory.Proofs.Regex.Matching
import UserDirectory.Regex.Reader

/-!
# UserDirectory — the bounds of repetitions

A repetition whose upper bound is below its lower one is no expression, so the bounds in whatever is
read are in order, and the search finds what the rules of matching say.

## Results

* `isOrdered_of_ofText?`         — the bounds in an expression that was read are in order.
* `isMatch_iff_finds_of_ofText?` — it is found where the rules of matching say.
-/

namespace UserDirectory.Regex

open Text

variable {f : Flags}

/-- The members of a sequence have their bounds in order. -/
def ItemsOrdered (items : List Item) : Prop := ∀ p, Item.part p ∈ items → p.regex.IsOrdered

theorem itemsOrdered_nil : ItemsOrdered [] := fun _ h => absurd h List.not_mem_nil

/-- A further member is one more whose bounds have to be in order. -/
theorem itemsOrdered_cons_part {p : Fragment} {items : List Item} :
    ItemsOrdered (.part p :: items) ↔ p.regex.IsOrdered ∧ ItemsOrdered items := by
  simp only [ItemsOrdered, List.mem_cons, Item.part.injEq]
  constructor
  · exact fun h => ⟨h p (.inl rfl), fun q hq => h q (.inr hq)⟩
  · rintro ⟨hp, hitems⟩ q (rfl | hq)
    · exact hp
    · exact hitems q hq

theorem itemsOrdered_cons_flags {items : List Item} :
    ItemsOrdered (.flags :: items) ↔ ItemsOrdered items := by
  simp [ItemsOrdered]

-- ---------------------------------------------------------------------------
-- What is read in one step
-- ---------------------------------------------------------------------------

/-- What is read in one step is a set, an assertion or a character, without bounds. -/
theorem isOrdered_of_atomAt {s : List Char} {read : Fragment × Rest s}
    (h : atomAt f s = some read) : read.1.regex.IsOrdered := by
  fun_cases atomAt f s with
  | case1 => contradiction
  | case2 s =>
    rw [atomAt] at h
    obtain ⟨⟨p, r⟩, -, rfl⟩ := Option.map_eq_some_iff.mp h
    trivial
  | case3 s =>
    rw [atomAt] at h
    obtain ⟨⟨p, r⟩, -, rfl⟩ := Option.map_eq_some_iff.mp h
    cases p <;> trivial
  | case4 s =>
    rw [atomAt] at h
    obtain ⟨dot, -, rfl⟩ := Option.map_eq_some_iff.mp h
    trivial
  | case5 s a =>
    cases h
    trivial
  | case6 s a =>
    cases h
    trivial
  | case7 c s hclass hescape hdot hstart hend =>
    rw [atomAt] at h
    · cases h
      trivial
    all_goals assumption

/-- Bounds in braces are read only if they are in order. -/
theorem le_of_boundsAt {s : List Char} {min : Nat} {max : Option Nat} {rest : Rest s}
    (h : boundsAt f s = some (min, max, rest)) : ∀ m ∈ max, min ≤ m := by
  rw [boundsAt] at h
  split at h
  · contradiction
  -- the three forms of bounds: one number, a number and no end, two numbers
  · next least u hleast =>
    extract_lets hu at h
    split at h
    · obtain ⟨n, -, heq⟩ := Option.map_eq_some_iff.mp h
      cases heq
      simp
    · extract_lets lt v hv at h
      split at h
      · obtain ⟨n, -, heq⟩ := Option.map_eq_some_iff.mp h
        cases heq
        simp
      · split at h
        · obtain ⟨n, -, h⟩ := Option.bind_eq_some_iff.mp h
          obtain ⟨hle, heq⟩ := Option.ite_none_right_eq_some.mp h
          cases heq
          simpa using hle
        · contradiction
    · contradiction

/-- The bounds that the marks `?`, `*` and `+` stand for are in order. -/
theorem le_of_markBounds? {c : Char} {min : Nat} {max : Option Nat}
    (h : markBounds? c = some (min, max)) : ∀ m ∈ max, min ≤ m := by
  rw [markBounds?.eq_def] at h
  split at h
  all_goals cases h
  all_goals simp

/-- The bounds of a repetition that was read are in order, however they were written. -/
theorem le_of_repetitionAt {s : List Char} {read : Repetition × Rest s}
    (h : repetitionAt f s = some read) : ∀ m ∈ read.1.max, read.1.min ≤ m := by
  rw [repetitionAt.eq_def] at h
  split at h
  · contradiction
  · split at h
    · contradiction
    · next hbounds =>
      cases h
      exact le_of_boundsAt hbounds
  · obtain ⟨bounds, hbounds, rfl⟩ := Option.map_eq_some_iff.mp h
    exact le_of_markBounds? hbounds

/-- To repeat the last member within bounds that are in order keeps all bounds in order. -/
theorem itemsOrdered_of_repeatLast {repetition : Repetition} {items repeated : List Item}
    (hbounds : ∀ m ∈ repetition.max, repetition.min ≤ m) (hitems : ItemsOrdered items)
    (h : repeatLast repetition items = some repeated) : ItemsOrdered repeated := by
  rw [repeatLast.eq_def] at h
  split at h
  · next p items =>
    cases h
    obtain ⟨hp, hitems⟩ := itemsOrdered_cons_part.mp hitems
    exact itemsOrdered_cons_part.mpr ⟨⟨hp, hbounds⟩, hitems⟩
  · contradiction

-- ---------------------------------------------------------------------------
-- Sequences and alternatives
-- ---------------------------------------------------------------------------

/-- Members in a row have their bounds in order if each of them has. -/
theorem isOrdered_seqAll {items : List Item} (h : ItemsOrdered items) :
    (seqAll items).IsOrdered := by
  fun_induction seqAll items with
  | case1 => trivial
  | case2 items ih => exact ih (itemsOrdered_cons_flags.mp h)
  | case3 p => exact h p List.mem_cons_self
  | case4 p items hne ih =>
    obtain ⟨hp, hitems⟩ := itemsOrdered_cons_part.mp h
    exact ⟨hp, ih hitems⟩

theorem isOrdered_closeSeq {items : List Item} (h : ItemsOrdered items) :
    (closeSeq items).regex.IsOrdered :=
  isOrdered_seqAll fun p hp => h p (List.mem_reverse.mp hp)

/-- Alternatives have their bounds in order if each of them has. -/
theorem isOrdered_foldl_alt {branches : List Fragment} {r : Regex}
    (h : ∀ b ∈ branches, b.regex.IsOrdered) (hr : r.IsOrdered) :
    (branches.foldl (fun r q => .alt q.regex r) r).IsOrdered := by
  induction branches generalizing r with
  | nil => exact hr
  | cons b branches ih =>
    obtain ⟨hb, hbranches⟩ := List.forall_mem_cons.mp h
    exact ih hbranches ⟨hb, hr⟩

/-- A body that is closed has its bounds in order if all its alternatives have. -/
theorem isOrdered_closeBody {branches : List Fragment} (h : ∀ b ∈ branches, b.regex.IsOrdered) :
    (closeBody branches).regex.IsOrdered := by
  rw [closeBody.eq_def]
  split
  · trivial
  · exact h _ List.mem_cons_self
  · obtain ⟨hb, hbranches⟩ := List.forall_mem_cons.mp h
    exact isOrdered_foldl_alt hbranches hb

-- ---------------------------------------------------------------------------
-- Expressions
-- ---------------------------------------------------------------------------

/-- The induction is on the text: a member more, a member repeated, an alternative more, or what is
read in parentheses, which is a member. -/
theorem isOrdered_of_bodyAt {inGroup : Bool} {branches : List Fragment} {items : List Item}
    {s : List Char} {read : Fragment × Tail s} (hbranches : ∀ b ∈ branches, b.regex.IsOrdered)
    (hitems : ItemsOrdered items) (h : bodyAt inGroup f branches items s = some read) :
    read.1.regex.IsOrdered := by
  -- a sequence that is closed is one more alternative
  have hclose : ∀ {branches items}, (∀ b ∈ branches, b.regex.IsOrdered) → ItemsOrdered items →
      ∀ b ∈ closeSeq items :: branches, b.regex.IsOrdered := fun hbranches hitems =>
    List.forall_mem_cons.mpr ⟨isOrdered_closeSeq hitems, hbranches⟩
  fun_induction bodyAt inGroup f branches items s with
  | case1 | case4 | case5 | case7 | case8 | case10 | case11 | case13 | case14 | case15 | case17
  | case18 => contradiction
  | case2 | case3 =>
    cases h
    exact isOrdered_closeBody (hclose hbranches hitems)
  | case6 inGroup f branches items s cs p r hread hlen hskip hhere hbar ih =>
    cases h
    exact ih (hclose hbranches hitems) itemsOrdered_nil hread
  | case9 inGroup f branches items s cs g t ht hopen p r hread hlen hskip hhere hclose' hbar hlt ih =>
    cases h
    exact ih hbranches (itemsOrdered_cons_flags.mpr hitems) hread
  | case12 inGroup f branches items s cs g numbered name t ht hopen inner q hq hinner group p r hread
      hlen hskip hhere hclose' hbar hlt hlt' ihinner =>
    rename_i ih
    cases h
    have hgroup : group.regex.IsOrdered := ihinner (by simp) itemsOrdered_nil hinner
    exact ih hbranches (itemsOrdered_cons_part.mpr ⟨hgroup, hitems⟩) hread
  | case16 inGroup f branches items s c cs hlen hskip hhere hclose' hbar hopen hstarts repetition q hq
      hrepetition hlt repeated hlast p r hread ih =>
    cases h
    have hbounds := le_of_repetitionAt hrepetition
    exact ih hbranches (itemsOrdered_of_repeatLast hbounds hitems hlast) hread
  | case19 inGroup f branches items s c cs hlen hskip hhere hclose' hbar hopen hstarts part q hq hatom
      hlt p r hread ih =>
    cases h
    have hpart := isOrdered_of_atomAt hatom
    exact ih hbranches (itemsOrdered_cons_part.mpr ⟨hpart, hitems⟩) hread

/-- The bounds in an expression that was read are in order. -/
theorem isOrdered_of_ofText? {s : List Char} {r : Regex} (h : ofText? s = some r) :
    r.IsOrdered := by
  rw [ofText?] at h
  split at h
  · contradiction
  · next hread =>
    obtain ⟨-, heq⟩ := Option.ite_none_right_eq_some.mp h
    rw [← Option.some.inj heq]
    exact isOrdered_of_bodyAt (by simp) itemsOrdered_nil hread

/-- An expression that was read is found in a text if and only if it matches some stretch of it. -/
theorem isMatch_iff_finds_of_ofText? {s : List Char} {r : Regex} (h : ofText? s = some r)
    (text : List Char) : isMatch r text = true ↔ Finds r text :=
  isMatch_iff_finds (isOrdered_of_ofText? h) text

end UserDirectory.Regex
