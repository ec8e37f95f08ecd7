import UserDirectory.Proofs.Filter.Unfinished

/-!
# UserDirectory — filters that are nested too deeply

A text may follow the grammar and still be refused, for a conjunction, disjunction or negation that
is inside of `maxDepth` others. A reader goes through the tree in the order of the text, and what it
has left behind is closed again, however deep it was. So it is refused at the first such node: what
comes before that is the front of a filter, and what comes after it is not looked at.

## Results

* `level_lt_of_mem_composites` — no node is deeper than the nesting of the tree allows.
* `refused_of_derives`          — at which node a tree is refused that is nested too deeply.
* `parseAt_of_nesting`          — what is answered for a filter that is nested too deeply.
-/

namespace UserDirectory.Filter

open Text

-- ---------------------------------------------------------------------------
-- The nodes of a tree
-- ---------------------------------------------------------------------------

/-- A conjunction, disjunction or negation in a tree. -/
structure Composite where
  /-- How many conjunctions, disjunctions and negations it is inside of. -/
  level : Nat
  kind : Condition
  deriving DecidableEq, Repr

mutual

/-- The conjunctions, disjunctions and negations of a tree, in the order in which their texts start;
the whole tree is inside of `level` others. -/
def composites (level : Nat) : Filter → List Composite
  | .equality .. => []
  | .conjunction members => ⟨level, .conjunction⟩ :: compositesOfAll (level + 1) members
  | .disjunction members => ⟨level, .disjunction⟩ :: compositesOfAll (level + 1) members
  | .negation member => ⟨level, .negation⟩ :: composites (level + 1) member

/-- Those of several trees whose texts come one after the other. -/
def compositesOfAll (level : Nat) : List Filter → List Composite
  | [] => []
  | f :: fs => composites level f ++ compositesOfAll level fs

end

/-- The first of the nodes that has `maxDepth` others around it. -/
def firstTooDeep? (nodes : List Composite) : Option Composite :=
  nodes.find? fun node => node.level == maxDepth

/-- The character behind the parenthesis that starts a conjunction, disjunction or negation. -/
def markOf? : Condition → Option Char
  | .conjunction => some '&'
  | .disjunction => some '|'
  | .negation => some '!'
  | _ => none

theorem markOf?_condition (k : Connective) : markOf? k.condition = some k.symbol := by
  cases k <;> rfl

/-- A conjunction or disjunction comes before what is in its members. -/
theorem composites_join (k : Connective) (level : Nat) (members : List Filter) :
    (k.join members).composites level =
      ⟨level, k.condition⟩ :: compositesOfAll (level + 1) members := by
  cases k <;> rw [Connective.join, composites, Connective.condition]

/-- A node at the root or inside of it is no deeper than one level more allows. -/
theorem level_lt_of_mem_cons {node : Composite} {level n : Nat} {kind : Condition}
    {nodes : List Composite} (hmem : node ∈ ⟨level, kind⟩ :: nodes)
    (h : node ∈ nodes → node.level < level + 1 + n) : node.level < level + (n + 1) := by
  rcases List.mem_cons.mp hmem with rfl | hmem
  · simp only
    omega
  · have hlt := h hmem
    omega

mutual

/-- No node is deeper than the nesting of the tree allows. -/
theorem level_lt_of_mem_composites {node : Composite} {level : Nat} :
    ∀ {f : Filter}, node ∈ f.composites level → node.level < level + f.nesting
  | .equality .., h => by
    rw [composites] at h
    contradiction
  | .conjunction members, h => by
    rw [composites] at h
    rw [nesting]
    exact level_lt_of_mem_cons h level_lt_of_mem_compositesOfAll
  | .disjunction members, h => by
    rw [composites] at h
    rw [nesting]
    exact level_lt_of_mem_cons h level_lt_of_mem_compositesOfAll
  | .negation member, h => by
    rw [composites] at h
    rw [nesting]
    exact level_lt_of_mem_cons h level_lt_of_mem_composites

/-- No node of the members is deeper than their nesting allows. -/
theorem level_lt_of_mem_compositesOfAll {node : Composite} {level : Nat} :
    ∀ {fs : List Filter}, node ∈ compositesOfAll level fs → node.level < level + nestingAll fs
  | [], h => by
    rw [compositesOfAll] at h
    contradiction
  | f :: fs, h => by
    rw [compositesOfAll, List.mem_append] at h
    rw [nestingAll]
    rcases h with h | h
    · have hlt := level_lt_of_mem_composites h
      omega
    · have hlt := level_lt_of_mem_compositesOfAll h
      omega

end

/-- A tree that is not nested too deeply has no node that is too deep. -/
theorem firstTooDeep?_of_nesting_le {f : Filter} {depth : Nat} (h : depth + f.nesting ≤ maxDepth) :
    firstTooDeep? (f.composites depth) = none := by
  rw [firstTooDeep?, List.find?_eq_none]
  intro node hnode
  have hlt := level_lt_of_mem_composites hnode
  rw [beq_iff_eq]
  omega

theorem firstTooDeep?_cons_of_lt {depth : Nat} (h : depth < maxDepth) (kind : Condition)
    (nodes : List Composite) : firstTooDeep? (⟨depth, kind⟩ :: nodes) = firstTooDeep? nodes := by
  have hne : (depth == maxDepth) = false := beq_false_of_ne (Nat.ne_of_lt h)
  simp only [firstTooDeep?, List.find?_cons, hne]

theorem firstTooDeep?_cons_self (kind : Condition) (nodes : List Composite) :
    firstTooDeep? (⟨maxDepth, kind⟩ :: nodes) = some ⟨maxDepth, kind⟩ := by
  simp only [firstTooDeep?, List.find?_cons, BEq.rfl]

theorem firstTooDeep?_append (nodes nodes' : List Composite) :
    firstTooDeep? (nodes ++ nodes') = (firstTooDeep? nodes).or (firstTooDeep? nodes') :=
  List.find?_append

-- ---------------------------------------------------------------------------
-- Where a tree is refused
-- ---------------------------------------------------------------------------

/-- Whether `front` is a front of a filter that may stand inside of `depth` groups. -/
def Completable (depth : Nat) (front : List Char) : Prop :=
  ∃ rest f, Derives (front ++ rest) f ∧ f.nesting ≤ maxDepth - depth

/-- Whether `front` is a front of the members of the innermost of these groups. -/
def CompletableAll (depth : Nat) (front : List Char) : Prop :=
  ∃ rest fs, DerivesAll (front ++ rest) fs ∧ fs ≠ [] ∧ nestingAll fs ≤ maxDepth - depth

/-- Whether a reader, inside of `depth` groups of which those `around` it are known, refuses the
text `t` at the first of the nodes that is too deep, of which the text starts behind `front`. -/
structure RefusedAt {α : Type} (read : List Char → Except Condition α) (depth : Nat)
    (around : List OpenGroup) (nodes : List Composite) (t front : List Char) (node : Composite) :
    Prop where
  first : firstTooDeep? nodes = some node
  /-- What is behind the mark of the node makes no difference. -/
  refused : ∃ mark back, markOf? node.kind = some mark ∧ t = front ++ '(' :: mark :: back ∧
    ∀ rest, read (front ++ '(' :: mark :: rest) = .error node.kind
  /-- In front of the node as many groups are open as may be. -/
  groups : ∃ inner, inner.length + depth = maxDepth ∧
    ∀ outer, front.foldl advance (around ++ outer) = inner ++ (around ++ outer)

/-- Nothing at all is the front of a filter. -/
theorem completable_nil (depth : Nat) : Completable depth [] := by
  have hname : IsName ['a'] := ⟨by decide, by decide, by decide, by decide⟩
  have hmark : ∀ c ∈ ['a'].head?, ¬IsMark c := by
    intro c hc
    cases hc
    simp [IsMark]
  refine ⟨_, _, .equality hname hmark ⟨List.not_mem_nil, List.not_mem_nil⟩, ?_⟩
  rw [nesting]
  exact Nat.zero_le _

/-- If no group may be opened any more, a tree is refused at its root. -/
theorem refused_root {mark : Char} {kind : Condition} {nodes : List Composite} {body : List Char}
    (hmark : markOf? kind = some mark)
    (hread : ∀ rest, readFilter maxDepth ('(' :: mark :: rest) = .error kind) :
    ∃ front node, Completable maxDepth front ∧ RefusedAt (readFilter maxDepth) maxDepth []
      (⟨maxDepth, kind⟩ :: nodes) ('(' :: mark :: body) front node := by
  refine ⟨[], ⟨maxDepth, kind⟩, completable_nil maxDepth, firstTooDeep?_cons_self kind nodes, ?_, ?_⟩
  · exact ⟨mark, body, hmark, rfl, hread⟩
  · exact ⟨[], Nat.zero_add _, fun outer => rfl⟩

/-- The groups that are known around a text do not matter to a reader that knows of none. -/
theorem RefusedAt.around {α : Type} {read : List Char → Except Condition α} {depth : Nat}
    {nodes : List Composite} {t front : List Char} {node : Composite}
    (h : RefusedAt read depth [] nodes t front node) (around : List OpenGroup) :
    RefusedAt read depth around nodes t front node where
  first := h.first
  refused := h.refused
  groups := by
    obtain ⟨inner, hlength, hgroups⟩ := h.groups
    exact ⟨inner, hlength, fun outer => hgroups (around ++ outer)⟩

/-- A group that may be opened is refused for what is inside of it. -/
theorem RefusedAt.inside {α : Type} {read : List Char → Except Condition α} {depth : Nat}
    {mark : Char} {kind : Condition} {group : OpenGroup} {nodes : List Composite}
    {t front : List Char} {node : Composite}
    (h : RefusedAt read (depth + 1) [group] nodes t front node) (hdepth : depth < maxDepth)
    (hmark : ∀ outer, advance (.opened :: outer) mark = group :: outer)
    (hread : ∀ s c, read s = .error c → readFilter depth ('(' :: mark :: s) = .error c) :
    RefusedAt (readFilter depth) depth [] (⟨depth, kind⟩ :: nodes) ('(' :: mark :: (t ++ [')']))
      ('(' :: mark :: front) node where
  first := by rw [firstTooDeep?_cons_of_lt hdepth, h.first]
  refused := by
    obtain ⟨mark', back, hmark', rfl, hrefused⟩ := h.refused
    exact ⟨mark', back ++ [')'], hmark', by simp, fun rest => hread _ _ (hrefused rest)⟩
  groups := by
    obtain ⟨inner, hlength, hgroups⟩ := h.groups
    -- the group is the outermost one of those that are open
    refine ⟨inner ++ [group], ?_, fun outer => ?_⟩
    · rw [List.length_append, List.length_singleton]
      omega
    · rw [List.nil_append, List.foldl_cons, List.foldl_cons, advance_open, hmark,
        List.append_assoc]
      exact hgroups outer

section

variable {k : Connective} {t u : List Char} {f : Filter} {fs : List Filter} {depth : Nat}

/-- The front of some members, behind the mark of a group, is the front of that group. -/
theorem CompletableAll.group {front : List Char} (h : CompletableAll (depth + 1) front)
    (hdepth : depth < maxDepth) (k : Connective) :
    Completable depth ('(' :: k.symbol :: front) := by
  obtain ⟨rest, gs, hgs, hne, hn⟩ := h
  refine ⟨rest ++ [')'], k.join gs, ?_, ?_⟩
  · have hderives := Derives.group (k := k) hgs hne
    rwa [List.append_assoc] at hderives
  · rw [nesting_join]
    omega

/-- The front of a member, behind the mark of a negation, is the front of that negation. -/
theorem Completable.negation {front : List Char} (h : Completable (depth + 1) front)
    (hdepth : depth < maxDepth) : Completable depth ('(' :: '!' :: front) := by
  obtain ⟨rest, g, hg, hn⟩ := h
  refine ⟨rest ++ [')'], .negation g, ?_, ?_⟩
  · have hderives := Derives.negation hg
    rwa [List.append_assoc] at hderives
  · rw [nesting]
    omega

/-- A conjunction or disjunction that may be opened is refused for one of its members. -/
theorem refused_group (hdepth : depth ≤ maxDepth)
    (h : depth < maxDepth → ∃ front node, CompletableAll (depth + 1) front ∧
      RefusedAt (readMembers k (depth + 1)) (depth + 1) [.several k]
        (compositesOfAll (depth + 1) fs) t front node) :
    ∃ front node, Completable depth front ∧ RefusedAt (readFilter depth) depth []
      ((k.join fs).composites depth) ('(' :: k.symbol :: (t ++ [')'])) front node := by
  rw [composites_join]
  rcases Nat.lt_or_eq_of_le hdepth with hlt | rfl
  · obtain ⟨front, node, hfront, hrefused⟩ := h hlt
    refine ⟨_, node, hfront.group hlt k, hrefused.inside hlt (advance_symbol k) fun s c hs => ?_⟩
    rw [readFilter_group, readGroup_of_lt hlt, hs]
    rfl
  · refine refused_root (markOf?_condition k) fun rest => ?_
    rw [readFilter_group, readGroup_of_le le_rfl]

/-- A negation that may be opened is refused for its member. -/
theorem refused_negation (hdepth : depth ≤ maxDepth)
    (h : depth < maxDepth → ∃ front node, Completable (depth + 1) front ∧
      RefusedAt (readFilter (depth + 1)) (depth + 1) [] (f.composites (depth + 1)) t front node) :
    ∃ front node, Completable depth front ∧ RefusedAt (readFilter depth) depth []
      ((Filter.negation f).composites depth) ('(' :: '!' :: (t ++ [')'])) front node := by
  rw [composites]
  rcases Nat.lt_or_eq_of_le hdepth with hlt | rfl
  · obtain ⟨front, node, hfront, hrefused⟩ := h hlt
    have hinside := hrefused.around [.negation false]
    refine ⟨_, node, hfront.negation hlt, hinside.inside hlt advance_not fun s c hs => ?_⟩
    rw [readFilter_negation, readNegation_of_lt hlt, hs]
    rfl
  · refine refused_root rfl fun rest => ?_
    rw [readFilter_negation, readNegation_of_le le_rfl]

/-- Members are refused for the first one if that is nested too deeply. -/
theorem refused_cons_of_head (ht : Derives t f)
    (h : ∃ front node, Completable depth front ∧
      RefusedAt (readFilter depth) depth [] (f.composites depth) t front node) :
    ∃ front node, CompletableAll depth front ∧ RefusedAt (readMembers k depth) depth [.several k]
      (compositesOfAll depth (f :: fs)) (t ++ u) front node := by
  obtain ⟨front, node, ⟨rest, g, hg, hn⟩, hrefused⟩ := h
  obtain ⟨hfirst, ⟨mark, back, hmark, rfl, hread⟩, hgroups⟩ := hrefused.around [.several k]
  refine ⟨front, node, ?completable, ?first, ?refused, hgroups⟩
  case completable =>
    refine ⟨rest, [g], ?_, List.cons_ne_nil g [], ?_⟩
    · have hone := DerivesAll.cons hg .nil
      rwa [List.append_nil] at hone
    · rw [nestingAll, nestingAll]
      omega
  case first =>
    rw [compositesOfAll, firstTooDeep?_append, hfirst]
    rfl
  case refused =>
    refine ⟨mark, back ++ u, hmark, by simp, fun rest => ?_⟩
    -- some of the first member stands in front of the node, or the node itself starts there
    have hstart : ∃ body, front ++ '(' :: mark :: rest = '(' :: body := by
      by_cases hfront : front = []
      · exact ⟨mark :: rest, by rw [hfront, List.nil_append]⟩
      · obtain ⟨body, rfl⟩ := ht.exists_open_of_append hfront
        exact ⟨_, List.cons_append⟩
    obtain ⟨body, hbody⟩ := hstart
    have hrefused := hread rest
    rw [hbody] at hrefused ⊢
    exact readMembers_of_error hrefused

/-- A first member that is not nested too deeply is left behind, however deep it is. -/
theorem refused_cons_of_tail (ht : Derives t f) (hn : f.nesting ≤ maxDepth - depth)
    (hdepth : depth ≤ maxDepth)
    (h : ∃ front node, CompletableAll depth front ∧ RefusedAt (readMembers k depth) depth
      [.several k] (compositesOfAll depth fs) u front node) :
    ∃ front node, CompletableAll depth front ∧ RefusedAt (readMembers k depth) depth [.several k]
      (compositesOfAll depth (f :: fs)) (t ++ u) front node := by
  obtain ⟨front, node, ⟨rest, gs, hgs, hne, hn'⟩, hfirst, ⟨mark, back, hmark, rfl, hread⟩,
    inner, hlength, hgroups⟩ := h
  refine ⟨t ++ front, node, ?completable, ?first, ?refused, inner, hlength, ?groups⟩
  -- the first member is done, so that the front of the others may be completed as before
  case completable =>
    refine ⟨rest, f :: gs, ?_, List.cons_ne_nil f gs, ?_⟩
    · rw [List.append_assoc]
      exact .cons ht hgs
    · rw [nestingAll]
      omega
  -- the first member has no node that is too deep
  case first =>
    rw [compositesOfAll, firstTooDeep?_append, firstTooDeep?_of_nesting_le (by omega), hfirst]
    rfl
  case refused =>
    refine ⟨mark, back, hmark, by simp, fun rest => ?_⟩
    rw [List.append_assoc, readMembers_append ht hn, hread]
    rfl
  case groups =>
    intro outer
    rw [List.foldl_append, foldl_advance_of_derives ht]
    exact hgroups outer

end

mutual

/-- A text that is derivable, but as a tree that is nested too deeply, is refused at the first node
that is too deep. -/
theorem refused_of_derives {t : List Char} {f : Filter} {depth : Nat} (h : Derives t f)
    (hdepth : depth ≤ maxDepth) (hn : maxDepth < depth + f.nesting) :
    ∃ front node, Completable depth front ∧
      RefusedAt (readFilter depth) depth [] (f.composites depth) t front node := by
  match h with
  | .equality .. =>
    rw [nesting] at hn
    omega
  | .conjunction hs hne =>
    rw [nesting] at hn
    exact refused_group (k := .all) hdepth fun hlt => refused_of_derivesAll .all hs hlt (by omega)
  | .disjunction hs hne =>
    rw [nesting] at hn
    exact refused_group (k := .some) hdepth fun hlt => refused_of_derivesAll .some hs hlt (by omega)
  | .negation h =>
    rw [nesting] at hn
    exact refused_negation hdepth fun hlt => refused_of_derives h hlt (by omega)

/-- Members that are derivable, but nested too deeply, are refused at the first node that is too
deep. -/
theorem refused_of_derivesAll {t : List Char} {fs : List Filter} {depth : Nat} (k : Connective)
    (h : DerivesAll t fs) (hdepth : depth ≤ maxDepth) (hn : maxDepth < depth + nestingAll fs) :
    ∃ front node, CompletableAll depth front ∧
      RefusedAt (readMembers k depth) depth [.several k] (compositesOfAll depth fs) t front node := by
  match h with
  | .nil =>
    rw [nestingAll] at hn
    omega
  | @DerivesAll.cons t u f fs h hs =>
    rw [nestingAll] at hn
    -- the first member is refused, or it is left behind and a later one is
    by_cases hfirst : f.nesting ≤ maxDepth - depth
    · exact refused_cons_of_tail h hfirst hdepth (refused_of_derivesAll k hs hdepth (by omega))
    · exact refused_cons_of_head h (refused_of_derives h hdepth (by omega))

end

-- ---------------------------------------------------------------------------
-- Answers
-- ---------------------------------------------------------------------------

/-- A text that the grammar derives as a tree of more than 128 levels is refused for the kind of the
first node, in the order of the text, that is inside of 128 others. What comes before this node is
the front of a filter that is accepted, with 128 groups open at its end, and nothing behind the mark
of the node makes a difference. -/
theorem parseAt_of_nesting {text : String} {f : Filter} (h : Derives text.toList f)
    (hn : 128 < f.nesting) :
    ∃ node, (f.composites 0).find? (fun node => node.level == 128) = some node ∧
      parseAt .any text 0 = .error (.notA node.kind) ∧
      ∃ front mark back, text.toList = front ++ '(' :: mark :: back ∧
        markOf? node.kind = some mark ∧ (openGroups front).length = 128 ∧
        (∃ rest g, IsWhole .any (String.ofList (front ++ rest)) g) ∧
        ∀ rest, parseAt .any (String.ofList (front ++ '(' :: mark :: rest)) 0 =
          .error (.notA node.kind) := by
  obtain ⟨front, node, ⟨rest, g, hg, hnesting⟩, hfirst, ⟨mark, back, hmark, htext, hread⟩,
    inner, hlength, hgroups⟩ := refused_of_derives h (Nat.zero_le _) (by rw [maxDepth]; omega)
  -- whatever follows the mark, the text is refused there
  have hanswer : ∀ rest, parseAt .any (String.ofList (front ++ '(' :: mark :: rest)) 0 =
      .error (.notA node.kind) := by
    intro rest
    refine parseAt_any_of_error ?_
    rw [String.toList_ofList]
    exact hread rest
  refine ⟨node, hfirst, ?_, front, mark, back, htext, hmark, ?_, ⟨rest, g, ?_⟩, hanswer⟩
  · have hwhole := hanswer back
    rwa [← htext, String.ofList_toList] at hwhole
  · have hopen := hgroups []
    rw [List.append_nil, List.append_nil] at hopen
    rw [openGroups, hopen]
    exact hlength
  · rw [isWhole_any_iff, String.toList_ofList]
    exact ⟨hg, hnesting⟩

/-- The first member of the conjunction is as deep as may be, and the disjunction at the bottom of
the second one is too deep. -/
theorem parseAt_of_nesting_wide :
    let deep := fun f => Filter.negation^[127] f
    let f := Filter.conjunction [deep (equals "cn" "a"), deep (.disjunction [equals "cn" "a"])]
    Derives f.render.toList f ∧ 128 < f.nesting ∧
      parseAt .any f.render 0 = .error (.notA .disjunction) := by
  intro deep f
  have hdeep : ∀ (n : Nat) (g : Filter), g.Readable → (Filter.negation^[n] g).Readable := by
    intro n
    induction n with
    | zero => exact fun g hg => hg
    | succ n ih =>
      intro g hg
      refine ih (.negation g) ?_
      rw [Readable]
      exact hg
  have hleaf : (equals "cn" "a").Readable := by
    have hparse : parse "(cn=a)" = .ok (equals "cn" "a") := by decide +kernel
    exact (wellFormed_of_parse hparse).readable
  have hreadable : f.Readable := by
    refine ⟨List.cons_ne_nil _ _, hdeep _ _ hleaf, hdeep _ _ ?_, trivial⟩
    exact ⟨List.cons_ne_nil _ _, hleaf, trivial⟩
  have hderives : Derives f.render.toList f := by
    rw [render, String.toList_ofList]
    exact hreadable.derives
  have hnesting : 128 < f.nesting := by decide +kernel
  have hnode : (f.composites 0).find? (fun node => node.level == 128) =
      some ⟨128, .disjunction⟩ := by decide +kernel
  obtain ⟨node, hfirst, hanswer, -⟩ := parseAt_of_nesting hderives hnesting
  rw [hnode, Option.some.injEq] at hfirst
  subst hfirst
  exact ⟨hderives, hnesting, hanswer⟩

end UserDirectory.Filter
