import Mathlib.Algebra.Ring.Parity
import Mathlib.Data.List.DropRight
import UserDirectory.Proofs.Pattern.Matching
import UserDirectory.Proofs.Regex.Escapes
import UserDirectory.Proofs.Regex.Order

/-!
# UserDirectory — the dots of a pattern

A backslash is put before each dot of a pattern, whatever stands there. So a dot stands for itself
only if the backslashes in front of it, if there are any, make pairs. Otherwise the last of them
makes a pair with the one that is put in, and the dot stands for any character.

## Results

* `Pattern.needsDot_of_bodyOf_expand` — a dot of the first kind is in whatever the expression matches.
* `Pattern.mem_dot_of_accepts`        — it is in whatever the pattern accepts.
-/

namespace UserDirectory

open Text Regex

-- ---------------------------------------------------------------------------
-- Expressions that need a dot
-- ---------------------------------------------------------------------------

namespace Regex

/-- Whether the expression matches only in texts with a dot. -/
def NeedsDot (r : Regex) : Prop := ∀ text i j, Matches text r i j → '.' ∈ text

theorem needsDot_dot : NeedsDot (.set (.single '.')) := by
  intro text i j h
  obtain ⟨a, b, rfl, -, -⟩ := matches_set_single_iff.mp h
  simp

/-- To be taken once or more changes nothing. -/
theorem NeedsDot.rep {r : Regex} (h : NeedsDot r) {min : Nat} (hmin : 0 < min) (max : Option Nat)
    (greedy : Bool) : NeedsDot (.rep r min max greedy) := by
  intro text i j hmatch
  obtain ⟨-, n, ⟨hn, -⟩, hturns⟩ := matches_rep_iff.mp hmatch
  cases hturns with
  | zero => omega
  | succ hone _ => exact h text _ _ hone

/-- Whether a member of a sequence needs a dot. -/
def ItemsNeedDot (items : List Item) : Prop := ∃ p, Item.part p ∈ items ∧ NeedsDot p.regex

/-- A sequence needs a dot if a member of it does. -/
theorem needsDot_seqAll {items : List Item} (h : ItemsNeedDot items) : NeedsDot (seqAll items) := by
  obtain ⟨p, hmem, hp⟩ := h
  fun_induction seqAll items with
  | case1 => exact absurd hmem List.not_mem_nil
  | case2 items ih =>
    rcases List.mem_cons.mp hmem with hflags | hmem
    · contradiction
    · exact ih hmem
  | case3 q =>
    cases List.mem_singleton.mp hmem
    exact hp
  | case4 q items hne ih =>
    intro text i k hmatch
    obtain ⟨j, hfirst, hrest⟩ := matches_seq_iff.mp hmatch
    rcases List.mem_cons.mp hmem with heq | hmem
    · cases heq
      exact hp text i j hfirst
    · exact ih hmem text j k hrest

/-- What follows another member, or is repeated once or more, still needs its dot. -/
theorem ItemsNeedDot.cons {items : List Item} (h : ItemsNeedDot items) (item : Item) :
    ItemsNeedDot (item :: items) := by
  obtain ⟨p, hmem, hp⟩ := h
  exact ⟨p, List.mem_cons_of_mem item hmem, hp⟩

/-- What is repeated once or more still needs its dot. -/
theorem ItemsNeedDot.repeatLast {items repeated : List Item} (h : ItemsNeedDot items)
    {repetition : Repetition} (hmin : 0 < repetition.min)
    (hlast : repeatLast repetition items = some repeated) : ItemsNeedDot repeated := by
  obtain ⟨p, hmem, hp⟩ := h
  rw [Regex.repeatLast.eq_def] at hlast
  split at hlast
  · next q items =>
    cases hlast
    rcases List.mem_cons.mp hmem with heq | hmem
    · cases heq
      exact ⟨_, List.mem_cons_self, hp.rep hmin _ _⟩
    · exact ⟨p, List.mem_cons_of_mem _ hmem, hp⟩
  · contradiction

end Regex

namespace Pattern

-- ---------------------------------------------------------------------------
-- Dots behind pairs of backslashes
-- ---------------------------------------------------------------------------

/-- The characters that may make a part of a pattern optional. -/
def optionMarks : List Char := ['*', '?', '\x7b', '|', '[', '(']

theorem isCaseless_of_mem {c : Char} (hc : c ∈ '\\' :: '.' :: optionMarks) : isCaseless c = true := by
  have hall : ('\\' :: '.' :: optionMarks).all isCaseless = true := by decide +kernel
  exact List.all_eq_true.mp hall c hc

/-- Whether a backslash is waiting for its partner behind a character, if one was before it as told
by `waiting`. -/
def waits (waiting : Bool) (c : Char) : Bool := !waiting && c == '\\'

/-- Whether there is a dot in the text that no backslash makes a pair with; `waiting` tells whether one
before the text is waiting for its partner. -/
def hasBareDot (waiting : Bool) : List Char → Bool
  | [] => false
  | c :: cs => (!waiting && c == '.') || hasBareDot (waits waiting c) cs

/-- The backslashes at the end of a text. -/
def lastSlashes (cs : List Char) : List Char := cs.rtakeWhile (· == '\\')

section

variable {waiting : Bool} {c : Char} {cs : List Char}

/-- A dot without a partner is in the first part, or in the second one with what waits at the end of
the first. -/
theorem hasBareDot_append (waiting : Bool) (a b : List Char) :
    hasBareDot waiting (a ++ b) = (hasBareDot waiting a || hasBareDot (a.foldl waits waiting) b) := by
  induction a generalizing waiting with
  | nil => rfl
  | cons c a ih => rw [List.cons_append, hasBareDot, hasBareDot, List.foldl_cons, ih, Bool.or_assoc]

/-- A character that is no backslash and no dot leaves things as they were without it, but nothing
waits behind it. -/
theorem hasBareDot_cons (hslash : c ≠ '\\') (hdot : c ≠ '.') :
    hasBareDot waiting (c :: cs) = hasBareDot false cs := by
  rw [hasBareDot, waits, beq_false_of_ne hslash, beq_false_of_ne hdot, Bool.and_false,
    Bool.false_or]

/-- Characters that are no backslashes and no dots make no difference. -/
theorem hasBareDot_taken {taken : List Char} (hslash : '\\' ∉ taken) (hdot : '.' ∉ taken) :
    hasBareDot false (taken ++ cs) = hasBareDot false cs := by
  induction taken with
  | nil => rfl
  | cons c taken ih =>
    simp only [List.mem_cons, not_or] at hslash hdot
    rw [List.cons_append, hasBareDot_cons (Ne.symm hslash.1) (Ne.symm hdot.1), ih hslash.2 hdot.2]

/-- A backslash is one more at the end, and any other character leaves none there. -/
theorem lastSlashes_concat (cs : List Char) (c : Char) :
    lastSlashes (cs ++ [c]) = if c = '\\' then lastSlashes cs ++ [c] else [] := by
  rw [lastSlashes, List.rtakeWhile_concat, lastSlashes]
  simp only [beq_iff_eq]

/-- A backslash is waiting at the end of a text if the number of backslashes there is odd. -/
theorem foldl_waits_iff (cs : List Char) :
    cs.foldl waits false = true ↔ Odd (lastSlashes cs).length := by
  induction cs using List.reverseRecOn with
  | nil => simp [lastSlashes]
  | append_singleton cs c ih =>
    rw [List.foldl_append, List.foldl_cons, List.foldl_nil, waits, lastSlashes_concat]
    by_cases hc : c = '\\'
    · rw [if_pos hc, List.length_append, List.length_singleton, Nat.odd_add_one, ← ih]
      simp [hc]
    · rw [if_neg hc]
      simp [hc]

/-- A dot behind an even number of backslashes has none of them for a partner. -/
theorem hasBareDot_of_even {front back : List Char} (h : Even (lastSlashes front).length) :
    hasBareDot false (front ++ '.' :: back) = true := by
  have hnone : front.foldl waits false = false := by
    rw [← Bool.not_eq_true, foldl_waits_iff, Nat.not_odd_iff_even]
    exact h
  rw [hasBareDot_append, hnone, hasBareDot]
  simp

/-- Lower-casing keeps backslashes and dots where they are. -/
theorem hasBareDot_lowerFrom (before : List Char) :
    hasBareDot waiting (lowerFrom before cs) = hasBareDot waiting cs := by
  have hslash : isCaseless '\\' = true := isCaseless_of_mem (by decide)
  have hdot : isCaseless '.' = true := isCaseless_of_mem (by decide)
  induction cs generalizing waiting before with
  | nil => rw [lowerFrom]
  | cons c cs ih =>
    -- a sigma, a backslash or a dot, and any other character: only the second kind counts
    by_cases hsigma : c = 'Σ'
    · subst hsigma
      rw [lowerFrom, hasBareDot_cons (ne_sigma hslash before cs) (ne_sigma hdot before cs), ih,
        hasBareDot_cons (by decide) (by decide)]
    rw [lowerFrom_cons hsigma]
    by_cases hmark : c = '\\' ∨ c = '.'
    · have hform : lowerChar c = [c] := by
        rcases hmark with rfl | rfl
        · exact lowerChar_of_isCaseless hslash
        · exact lowerChar_of_isCaseless hdot
      rw [hform, List.singleton_append, hasBareDot, hasBareDot, ih]
    · rw [not_or] at hmark
      have hslash' : '\\' ∉ lowerChar c := fun h => hmark.1 ((mem_lowerChar_iff hslash).mp h)
      have hdot' : '.' ∉ lowerChar c := fun h => hmark.2 ((mem_lowerChar_iff hdot).mp h)
      obtain ⟨d, ds, hform⟩ := List.exists_cons_of_ne_nil (lowerChar_ne_nil c)
      rw [hform, List.mem_cons, not_or] at hslash' hdot'
      rw [hform, List.cons_append, hasBareDot_cons (Ne.symm hslash'.1) (Ne.symm hdot'.1),
        hasBareDot_taken hslash'.2 hdot'.2, ih, hasBareDot_cons hmark.1 hmark.2]

end

-- ---------------------------------------------------------------------------
-- Reading
-- ---------------------------------------------------------------------------

/-- What is taken from the expression of a pattern without backslashes and dots is taken from the
pattern. -/
theorem exists_of_expand_eq {cs taken rest : List Char} (hslash : '\\' ∉ taken) (hdot : '.' ∉ taken)
    (h : expand cs = taken ++ rest) : ∃ back, cs = taken ++ back ∧ expand back = rest := by
  induction taken generalizing cs with
  | nil => exact ⟨cs, rfl, h⟩
  | cons d taken ih =>
    simp only [List.mem_cons, not_or] at hslash hdot
    cases cs with
    | nil => simp [expand] at h
    | cons c cs =>
      -- a dot is written with a backslash and a star with a dot, neither of which has been taken
      by_cases hc : c = '.'
      · subst hc
        rw [expand_dot] at h
        exact absurd (List.cons.inj h).1 hslash.1
      by_cases hstar : c = '*'
      · subst hstar
        rw [expand_star] at h
        exact absurd (List.cons.inj h).1 hdot.1
      rw [expand_char hc hstar] at h
      obtain ⟨rfl, hrest⟩ := List.cons.inj h
      obtain ⟨back, rfl, hback⟩ := ih hslash.2 hdot.2 hrest
      exact ⟨back, rfl, hback⟩

/-- Whether the expression will need a dot: because of what has been read, or of the pattern that is
left. -/
def WillNeedDot (items : List Item) (cs : List Char) : Prop :=
  ItemsNeedDot items ∨ hasBareDot false cs = true

/-- A further member keeps the need for a dot, if the pattern that is left has lost none. -/
theorem WillNeedDot.cons {items : List Item} {cs cs' : List Char} (h : WillNeedDot items cs)
    (item : Item) (hcs : hasBareDot false cs = hasBareDot false cs') :
    WillNeedDot (item :: items) cs' :=
  h.imp (fun hitems => hitems.cons item) fun hdot => hcs ▸ hdot

/-- Whether the reader gets on to a later part of a pattern, and there is no less need for a dot than
there was. -/
def GetsOn (items : List Item) (cs : List Char) (p : Fragment) : Prop :=
  ∃ back items', back <:+ cs.tail ∧ bodyOf [] items' (expand back) = some p ∧
    (WillNeedDot items cs → WillNeedDot items' back)

section

variable {c : Char} {cs : List Char} {items : List Item} {p : Fragment}

theorem getsOn_dot (hread : bodyOf [] items (expand ('.' :: cs)) = some p) :
    GetsOn items ('.' :: cs) p := by
  rw [expand_dot, bodyOf_atom (by decide) (by decide) atomAt_escapedDot] at hread
  refine ⟨cs, _, List.suffix_refl cs, hread, fun _ => .inl ?_⟩
  exact ⟨_, List.mem_cons_self, needsDot_dot⟩

/-- An escape takes the character behind the backslash, unless that is a dot: then it takes the
backslash that is put in before the dot, and any character will do for the dot. -/
theorem getsOn_escape (hstar : '*' ∉ cs) (hbrace : '\x7b' ∉ cs)
    (hread : bodyOf [] items (expand ('\\' :: cs)) = some p) : GetsOn items ('\\' :: cs) p := by
  rw [expand_char (by decide) (by decide)] at hread
  cases cs with
  | nil =>
    rcases bodyOf_cons_eq_some (by decide) (by decide) hread with ⟨hrep, -⟩ | ⟨-, part, rest, hatom, -⟩
    · contradiction
    · contradiction
  | cons d cs =>
    simp only [List.mem_cons, not_or] at hstar hbrace
    -- a backslash and what follows it are a pair, so that no dot behind them changes its part
    have hpair : hasBareDot false ('\\' :: d :: cs) = hasBareDot false cs := by
      simp [hasBareDot, waits]
    by_cases hdot : d = '.'
    · subst hdot
      -- the backslash of the pattern takes the one that is put in before the dot, and the dot is
      -- read as a wildcard: two members more
      have hslash : atomAt {} ('\\' :: '\\' :: '.' :: expand cs) =
          some ({ regex := .set (.single '\\') },
            ((Tail.whole ('.' :: expand cs)).cons '\\').cons '\\') := rfl
      rw [expand_dot, bodyOf_atom (by decide) (by decide) hslash] at hread
      change bodyOf _ _ ('.' :: expand cs) = _ at hread
      rw [bodyOf_atom (by decide) (by decide) (atomAt_dot _)] at hread
      refine ⟨cs, _, List.suffix_cons _ cs, hread, fun h => ?_⟩
      exact (h.cons _ rfl).cons _ hpair
    · rw [expand_char hdot (Ne.symm hstar.1)] at hread
      obtain ⟨hrep, -⟩ | ⟨-, part, rest, hatom, hread⟩ :=
        bodyOf_cons_eq_some (by decide) (by decide) hread
      · contradiction
      rw [atomAt] at hatom
      obtain ⟨⟨primitive, r⟩, hescape, heq⟩ := Option.map_eq_some_iff.mp hatom
      cases heq
      -- no brace follows the escape, so that it takes no backslash and no dot
      have hhead : (expand cs).head? ≠ some '\x7b' := by
        intro h
        obtain ⟨back, hback⟩ := List.head?_eq_some_iff.mp h
        exact expand_ne_cons (by decide) hbrace.2 back hback
      obtain ⟨taken, htaken, hslash', hdot'⟩ := runsOver_of_escapeAt hhead hescape
      obtain ⟨back, rfl, hback⟩ := exists_of_expand_eq hslash' hdot' htaken
      change bodyOf _ _ r.1 = _ at hread
      rw [← hback] at hread
      refine ⟨back, _, (List.suffix_append taken back).trans (List.suffix_cons d _), hread, fun h => ?_⟩
      exact h.cons _ (hpair.trans (hasBareDot_taken hslash' hdot'))

/-- Any other character is one member more, or the last member is repeated once or more. -/
theorem getsOn_char (hmarks : ∀ d ∈ c :: cs, d ∉ optionMarks) (hdot : c ≠ '.') (hslash : c ≠ '\\')
    (hread : bodyOf [] items (expand (c :: cs)) = some p) : GetsOn items (c :: cs) p := by
  have hc : ∀ m ∈ optionMarks, c ≠ m := by
    rintro m hm rfl
    exact hmarks c List.mem_cons_self hm
  have hquestion : '?' ∉ cs := fun h => hmarks '?' (List.mem_cons_of_mem c h) (by decide)
  rw [expand_char hdot (hc '*' (by decide))] at hread
  obtain ⟨hrep, repetition, rest, repeated, hrepetition, hlast, hread⟩ | ⟨-, part, rest, hatom, hread⟩ :=
    bodyOf_cons_eq_some (hc '|' (by decide)) (hc '(' (by decide)) hread
  · -- of the marks of repetition only `+` is not excluded
    have hplus : c = '+' := by
      simpa [startsRepetition, hc '?' (by decide), hc '*' (by decide), hc '\x7b' (by decide)] using hrep
    subst hplus
    rw [repetitionAt_mark (c := '+') rfl (expand_ne_cons (by decide) hquestion)] at hrepetition
    cases hrepetition
    refine ⟨cs, repeated, List.suffix_refl cs, hread, fun h => ?_⟩
    refine h.imp (fun hitems => hitems.repeatLast (Nat.one_pos) hlast) fun h => ?_
    rwa [hasBareDot_cons hslash hdot] at h
  · rw [rest_of_atomAt (hc '[' (by decide)) hslash hatom] at hread
    refine ⟨cs, _, List.suffix_refl cs, hread, fun h => ?_⟩
    exact h.cons _ (hasBareDot_cons hslash hdot)

/-- Whatever comes next in a pattern, the reader gets on without losing the need for a dot. -/
theorem getsOn_of_bodyOf (hmarks : ∀ d ∈ c :: cs, d ∉ optionMarks)
    (hread : bodyOf [] items (expand (c :: cs)) = some p) : GetsOn items (c :: cs) p := by
  by_cases hdot : c = '.'
  · subst hdot
    exact getsOn_dot hread
  by_cases hslash : c = '\\'
  · subst hslash
    have hnone : ∀ m ∈ optionMarks, m ∉ cs := fun m hm h => hmarks m (List.mem_cons_of_mem _ h) hm
    exact getsOn_escape (hnone '*' (by decide)) (hnone '\x7b' (by decide)) hread
  exact getsOn_char hmarks hdot hslash hread

/-- The expression of a pattern without marks of options needs a dot if the pattern has one that no
backslash makes a pair with, or if what has been read before needs one. The induction is on what is
left of the pattern. -/
theorem needsDot_of_bodyOf_expand (hmarks : ∀ c ∈ cs, c ∉ optionMarks)
    (hread : bodyOf [] items (expand cs) = some p) (hneed : WillNeedDot items cs) :
    NeedsDot p.regex := by
  induction hlength : cs.length using Nat.strongRecOn generalizing cs items with
  | _ n ih =>
    subst hlength
    cases cs with
    | nil =>
      rw [expand, bodyOf_nil] at hread
      cases hread
      -- nothing is left, so the dot that is needed is in what has been read
      obtain ⟨q, hmem, hq⟩ := hneed.resolve_right Bool.false_ne_true
      exact needsDot_seqAll ⟨q, List.mem_reverse.mpr hmem, hq⟩
    | cons c cs =>
      obtain ⟨back, items', hback, hread, hkept⟩ := getsOn_of_bodyOf hmarks hread
      have hlt : back.length < (c :: cs).length := Nat.lt_succ_of_le hback.length_le
      refine ih back.length hlt (fun d hd => ?_) hread (hkept hneed) rfl
      exact hmarks d (List.mem_cons_of_mem c (hback.mem hd))

end

/-- A pattern has none of the marks that could make a part of it optional, and a dot behind an even
number of backslashes. Then there is a dot in every value that it accepts. -/
theorem mem_dot_of_accepts (front back value : String)
    (heven : Even (lastSlashes front.toList).length)
    (hmarks : ∀ c ∈ (front ++ "." ++ back).toList, c ∉ optionMarks)
    (haccepts : (ofText (front ++ "." ++ back)).accepts value = true) : '.' ∈ value.toList := by
  have hdot : isCaseless '.' = true := isCaseless_of_mem (by decide)
  have htext : (front ++ "." ++ back).toList = front.toList ++ '.' :: back.toList := by
    rw [String.toList_append, String.toList_append, List.append_assoc]
    rfl
  have hlower : ∀ c ∈ lowerChars (front ++ "." ++ back).toList, c ∉ optionMarks := by
    intro c hc hmark
    have hcaseless := isCaseless_of_mem (List.mem_cons_of_mem _ (List.mem_cons_of_mem _ hmark))
    rw [lowerChars, mem_lowerFrom_iff hcaseless] at hc
    exact hmarks c hc hmark
  have hbare : hasBareDot false (lowerChars (front ++ "." ++ back).toList) = true := by
    rw [lowerChars, hasBareDot_lowerFrom, htext]
    exact hasBareDot_of_even heven
  rw [accepts, Matcher.accepts] at haccepts
  split at haccepts
  · contradiction
  · next r hregex =>
    rw [Bool.and_eq_true] at haccepts
    have hread : Regex.ofText? (expand (lowerChars (front ++ "." ++ back).toList)) = some r := by
      rw [← toList_source_ofText]
      exact hregex
    obtain ⟨i, j, hmatch⟩ := (isMatch_iff_finds_of_ofText? hread _).mp haccepts.2
    rw [ofText?_eq] at hread
    obtain ⟨p, hbody, hp⟩ := Option.bind_eq_some_iff.mp hread
    obtain ⟨-, heq⟩ := Option.ite_none_right_eq_some.mp hp
    rw [← Option.some.inj heq] at hmatch
    -- what the expression matches is in lower case, where a dot is one of the value itself
    have hneeds := needsDot_of_bodyOf_expand hlower hbody (.inr hbare)
    exact (mem_lowerFrom_iff hdot).mp (hneeds _ i j hmatch)

/-- The dot of the pattern stands behind two backslashes, which make one of the value. -/
theorem mem_dot_of_accepts_pair :
    Even (lastSlashes "X+\\\\".toList).length ∧
    (∀ c ∈ ("X+\\\\" ++ "." ++ "+$").toList, c ∉ optionMarks) ∧
    (ofText ("X+\\\\" ++ "." ++ "+$")).accepts "xX\\.." = true ∧ '.' ∈ "xX\\..".toList := by
  have heven : Even (lastSlashes "X+\\\\".toList).length := by decide
  have hmarks : ∀ c ∈ ("X+\\\\" ++ "." ++ "+$").toList, c ∉ optionMarks :=
    forall_not_mem_iff.mpr (by decide)
  have haccepts : (ofText ("X+\\\\" ++ "." ++ "+$")).accepts "xX\\.." = true := by decide +kernel
  exact ⟨heven, hmarks, haccepts, mem_dot_of_accepts _ _ _ heven hmarks haccepts⟩

/-- What becomes of a dot behind one backslash: a backslash, and any character of a line. -/
theorem ofText?_expand_slash_dot :
    Regex.ofText? (expand "\\.".toList) =
      some (.seq (.set (.single '\\')) (.set starSet)) := by
  have hread : bodyOf [] [] (expand "\\.".toList) =
      some (closeSeq [.part { regex := .set starSet }, .part { regex := .set (.single '\\') }]) := by
    have hslash : atomAt {} ['\\', '\\', '.'] =
        some ({ regex := .set (.single '\\') }, ((Tail.whole ['.']).cons '\\').cons '\\') := rfl
    change bodyOf [] [] ['\\', '\\', '.'] = _
    rw [bodyOf_atom (by decide) (by decide) hslash]
    change bodyOf [] _ ['.'] = _
    rw [bodyOf_atom (by decide) (by decide) (atomAt_dot [])]
    exact bodyOf_nil
  have hbranches : branches (.seq (.set (.single '\\')) (.set starSet)) =
      [[.literal ['\\'], .set starSet]] := rfl
  have htakes : ∀ p ∈ [Plan.literal ['\\'], .set starSet], ∀ back,
      Tally.Takes (Plan.tally back p) 31 272 := by
    intro p hp back
    rcases List.mem_cons.mp hp with rfl | hp
    · exact (Tally.takes_add 1 0).mono (by decide) (by decide)
    · rw [List.mem_singleton.mp hp]
      exact (Tally.takes_addSet (by decide) back).mono (by decide) (by decide)
  have hfits : (Regex.seq (.set (.single '\\')) (.set starSet)).fits = true :=
    fits_of_branches hbranches rfl htakes (by decide)
  rw [ofText?_eq, hread, Option.bind_some]
  exact if_pos ⟨by decide, by decide, hfits⟩

/-- A dot behind one backslash stands for any character, once the backslash has made a pair with the
one that is put in. -/
theorem accepts_without_dot :
    '.' ∈ "\\.".toList ∧ (∀ c ∈ "\\.".toList, c ∉ ')' :: optionMarks) ∧
    (ofText "\\.").accepts "\\x" = true ∧ '.' ∉ "\\x".toList := by
  have hsource : (ofText "\\.").source.toList = "\\.".toList := by decide +kernel
  have hregex : (ofText "\\.").matcher.regex? = _ := (congrArg (Regex.ofText? ∘ expand) hsource).trans
    ofText?_expand_slash_dot
  refine ⟨by decide, forall_not_mem_iff.mpr (by decide), ?_, by decide⟩
  rw [accepts, Matcher.accepts, hregex]
  decide +kernel

end Pattern

end UserDirectory
