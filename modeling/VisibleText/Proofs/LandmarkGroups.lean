import VisibleText.Proofs.Unchanged

/-!
# Groups are unique, and those of the nearest landmarks

The search for fields carries the group that it is in down the tree, and how many landmarks of each
name it has entered along from node to node. Here the group of a landmark is said by the order of
the page alone: it is made of the name and of how many landmarks of that name the page has up to
and with this one (`landmarkId`), whatever stands around them. So no two landmarks share one
(`landmarkId_inj`).

The search is laid open as the nodes that it visits, each with the place that its own fields are
looked for in (`visits`). The fields of a document are those of the visited nodes
(`ofDocument?_eq_visits`), and each has the group of the nearest landmark that is the node or
encloses it (`groups_unique_and_nearest`).
-/

set_option autoImplicit false

namespace VisibleText.Field

open VisibleText.Document (Node Tag walkAll)

/-! ## Landmarks in the order of the page -/

/-- The name of a landmark element. -/
def landmark? : Node → Option Text
  | .tag opening _ =>
    if opening.kind = .element && landmarks.contains opening.name then some opening.name else none
  | _ => none

/-- The name of the landmark that is the `j`-th of some nodes, counted from zero. -/
def landmarkAt? (nodes : List Node) (j : Nat) : Option Text := nodes[j]?.bind landmark?

/-- How many landmarks of a name some nodes are. -/
def landmarkCount (name : Text) (nodes : List Node) : Nat :=
  nodes.countP fun node => landmark? node = some name

/-- The group of the landmark that is the `j`-th node: its name if it is the first landmark of that
name, and else the name with its number among these. -/
def landmarkId (nodes : List Node) (j : Nat) : Text :=
  match landmarkAt? nodes j with
  | some name => landmarkGroup name (landmarkCount name (nodes.take (j + 1)))
  | none => []

/-- The `j`-th of the nodes of a walk is a landmark, and is the `i`-th one or encloses it: the walk
of the landmark starts at the one place and takes in the other. -/
def IsAround (nodes : List Node) (j i : Nat) : Prop :=
  ∃ node name, node.walk <+: nodes.drop j ∧ landmark? node = some name ∧
    j ≤ i ∧ i < j + node.walk.length

/-- The nearest landmark around a node: of the landmarks around it the last one in the walk. -/
def IsNearest (nodes : List Node) (j i : Nat) : Prop :=
  IsAround nodes j i ∧ ∀ j', IsAround nodes j' i → j' ≤ j

theorem IsAround.le {nodes : List Node} {j i : Nat} (h : IsAround nodes j i) : j ≤ i := by
  obtain ⟨-, -, -, -, hle, -⟩ := h
  exact hle

theorem landmark?_mem {node : Node} {name : Text} (h : landmark? node = some name) :
    name ∈ landmarks := by
  unfold landmark? at h
  split at h
  · split at h
    · next hlandmark =>
      cases h
      rw [Bool.and_eq_true] at hlandmark
      exact List.contains_iff_mem.1 hlandmark.2
    · cases h
  · cases h

theorem landmarkCount_append (name : Text) (nodes nodes' : List Node) :
    landmarkCount name (nodes ++ nodes') = landmarkCount name nodes + landmarkCount name nodes' :=
  List.countP_append

theorem landmarkCount_take_succ (name : Text) {nodes : List Node} {j : Nat} {node : Node}
    (h : nodes[j]? = some node) :
    landmarkCount name (nodes.take (j + 1)) =
      landmarkCount name (nodes.take j) + if landmark? node = some name then 1 else 0 := by
  rw [List.take_add_one, landmarkCount_append, h]
  simp [landmarkCount, List.countP_cons]

/-! ## Unique groups -/

/-- The name of a landmark is read off its group. -/
theorem takeWhile_landmarkGroup {name : Text} (hname : name ∈ landmarks) (n : Nat) :
    (landmarkGroup name n).takeWhile (· ≠ .char ':') = name := by
  -- no landmark has a colon in its name
  have hcolon : ∀ name ∈ landmarks, ∀ c ∈ name, decide (c ≠ CodePoint.char ':') = true := by
    decide
  have hname := hcolon name hname
  unfold landmarkGroup
  split
  · rw [← List.append_nil name, List.takeWhile_append_of_pos (by simpa using hname)]
    rfl
  · rw [List.append_assoc, List.takeWhile_append_of_pos hname]
    simp [text]

theorem landmarkGroup_inj {name name' : Text} (hname : name ∈ landmarks)
    (hname' : name' ∈ landmarks) {m n : Nat}
    (h : landmarkGroup name m = landmarkGroup name' n) : name = name' ∧ m = n := by
  obtain rfl : name = name' := by
    rw [← takeWhile_landmarkGroup hname m, h, takeWhile_landmarkGroup hname']
  refine ⟨rfl, ?_⟩
  unfold landmarkGroup at h
  split at h <;> split at h
  · next hm hn => rw [hm, hn]
  · simp [text] at h
  · simp [text] at h
  · rw [List.append_assoc, List.append_assoc] at h
    exact Text.ofNat_inj (List.append_cancel_left (List.append_cancel_left h))

theorem landmarkId_eq {nodes : List Node} {j : Nat} {name : Text}
    (h : landmarkAt? nodes j = some name) :
    landmarkId nodes j = landmarkGroup name (landmarkCount name (nodes.take (j + 1))) := by
  rw [landmarkId, h]

/-- The landmarks of one name are counted up. -/
theorem landmarkCount_lt {nodes : List Node} {i j : Nat} {name : Text} (hlt : i < j)
    (h : landmarkAt? nodes j = some name) :
    landmarkCount name (nodes.take (i + 1)) < landmarkCount name (nodes.take (j + 1)) := by
  obtain ⟨node, hnode, hname⟩ := Option.bind_eq_some_iff.1 h
  have hle : landmarkCount name (nodes.take (i + 1)) ≤ landmarkCount name (nodes.take j) :=
    (List.take_sublist_take_left hlt).countP_le
  rw [landmarkCount_take_succ name hnode, if_pos hname]
  omega

/-- Different landmarks have different groups. -/
theorem landmarkId_inj {nodes : List Node} {i j : Nat} {name name' : Text}
    (hi : landmarkAt? nodes i = some name) (hj : landmarkAt? nodes j = some name')
    (h : landmarkId nodes i = landmarkId nodes j) : i = j := by
  have hmem {k : Nat} {name : Text} (hk : landmarkAt? nodes k = some name) : name ∈ landmarks := by
    obtain ⟨node, -, hname⟩ := Option.bind_eq_some_iff.1 hk
    exact landmark?_mem hname
  rw [landmarkId_eq hi, landmarkId_eq hj] at h
  obtain ⟨rfl, hcount⟩ := landmarkGroup_inj (hmem hi) (hmem hj) h
  rcases Nat.lt_trichotomy i j with hlt | heq | hlt
  · exact absurd hcount (Nat.ne_of_lt (landmarkCount_lt hlt hj))
  · exact heq
  · exact absurd hcount.symm (Nat.ne_of_lt (landmarkCount_lt hlt hi))

/-! ## The nodes that the search visits -/

/-- A node that the search for fields visits. -/
structure Visit where
  node : Node
  /-- where the fields of the node itself are looked for -/
  place : Place

/-- The fields of a visited node, without those of the nodes in it. -/
def Visit.fields? (g : Ground) (v : Visit) : Option (List Field) :=
  match v.node with
  | .text value start => textFields? g v.place value start
  | .tag opening children =>
    (ownFields? g v.place opening).map (· ++ emptyField g v.place opening children)
  | _ => some []

/-- Where the fields of a node itself are looked for, and the landmarks entered behind its
start. -/
def Place.enter (p : Place) (counts : LandmarkCounts) : Node → Place × LandmarkCounts
  | .tag opening children =>
    (p.inside counts opening children, (enterTag counts p.group opening.kind opening.name).2)
  | _ => (p, counts)

/-- Where the nodes in a node stand. -/
def Place.within (p : Place) (counts : LandmarkCounts) : Node → Place
  | .expression children _ => ⟨none, children.any isStructure, true, p.group⟩
  | .fragment children _ => ⟨none, children.any isStructure, p.skipped, p.group⟩
  | .tag opening children => p.inside counts opening children
  | _ => p

mutual

/-- The visits to a node and the nodes in it, and the landmarks entered behind them. -/
def visitsIn (p : Place) (counts : LandmarkCounts) : Node → List Visit × LandmarkCounts
  | .expression children position =>
    let node := Node.expression children position
    let inner := visitsAmong (p.within counts node) (p.enter counts node).2 children
    (⟨node, (p.enter counts node).1⟩ :: inner.1, inner.2)
  | .fragment children position =>
    let node := Node.fragment children position
    let inner := visitsAmong (p.within counts node) (p.enter counts node).2 children
    (⟨node, (p.enter counts node).1⟩ :: inner.1, inner.2)
  | .tag opening children =>
    let node := Node.tag opening children
    let inner := visitsAmong (p.within counts node) (p.enter counts node).2 children
    (⟨node, (p.enter counts node).1⟩ :: inner.1, inner.2)
  | node => ([⟨node, (p.enter counts node).1⟩], (p.enter counts node).2)

/-- The visits to some nodes and the nodes in them, and the landmarks entered behind them. -/
def visitsAmong (p : Place) (counts : LandmarkCounts) :
    List Node → List Visit × LandmarkCounts
  | [] => ([], counts)
  | node :: nodes =>
    let first := visitsIn p counts node
    let others := visitsAmong p first.2 nodes
    (first.1 ++ others.1, others.2)

end

/-- The visits to the nodes of a document. -/
def visits (d : Document) : List Visit :=
  (visitsAmong ⟨none, d.children.any isStructure, false, []⟩ [] d.children).1

/-- A node is visited before the nodes in it. -/
theorem visitsIn_eq (p : Place) (counts : LandmarkCounts) (node : Node) :
    visitsIn p counts node =
      (⟨node, (p.enter counts node).1⟩ ::
          (visitsAmong (p.within counts node) (p.enter counts node).2 node.children).1,
        (visitsAmong (p.within counts node) (p.enter counts node).2 node.children).2) := by
  cases node <;> rfl

theorem walk_eq_cons (node : Node) : node.walk = node :: walkAll node.children := by
  cases node <;> rfl

mutual

theorem visitsIn_map_node (p : Place) (counts : LandmarkCounts) (node : Node) :
    (visitsIn p counts node).1.map Visit.node = node.walk := by
  cases node with
  | text | comment | doctype | frontmatter => rfl
  | expression children | fragment children | tag _ children =>
    exact congrArg (_ :: ·) (visitsAmong_map_node _ _ children)

/-- The nodes are visited in the order of the page, none left out. -/
theorem visitsAmong_map_node (p : Place) (counts : LandmarkCounts) (nodes : List Node) :
    (visitsAmong p counts nodes).1.map Visit.node = walkAll nodes := by
  cases nodes with
  | nil => rfl
  | cons node nodes =>
    rw [visitsAmong, walkAll, List.map_append, visitsIn_map_node, visitsAmong_map_node]

end

/-! ## The fields of the visits -/

/-- The fields that the search finds at some visits, or `none` if those of one cannot be
compared. -/
def fieldsOf? (g : Ground) (vs : List Visit) : Option (List Field) :=
  (vs.mapM (Visit.fields? g)).map List.flatten

section FieldsOf

variable {g : Ground}

theorem fieldsOf?_cons (v : Visit) (vs : List Visit) :
    fieldsOf? g (v :: vs) =
      (v.fields? g).bind fun own => (fieldsOf? g vs).map fun others => own ++ others := by
  rw [fieldsOf?, List.mapM_cons, fieldsOf?]
  cases v.fields? g with
  | none => rfl
  | some own => cases vs.mapM (Visit.fields? g) <;> rfl

theorem fieldsOf?_cons_of_nothing {v : Visit} (h : v.fields? g = some []) (vs : List Visit) :
    fieldsOf? g (v :: vs) = fieldsOf? g vs := by
  rw [fieldsOf?_cons, h]
  exact Option.map_id'

theorem fieldsOf?_append (vs vs' : List Visit) :
    fieldsOf? g (vs ++ vs') =
      (fieldsOf? g vs).bind fun first => (fieldsOf? g vs').map fun others => first ++ others := by
  induction vs with
  | nil =>
    rw [List.nil_append]
    cases fieldsOf? g vs' <;> rfl
  | cons v vs ih =>
    rw [List.cons_append, fieldsOf?_cons, fieldsOf?_cons, ih]
    cases v.fields? g with
    | none => rfl
    | some own =>
      cases fieldsOf? g vs with
      | none => rfl
      | some first => cases fieldsOf? g vs' <;> simp

/-- An empty field and fields of nodes inside do not meet: there is an empty field only where there
are no nodes. -/
theorem emptyField_eq_nil_or (inside : Place) (opening : Tag) (children : List Node) :
    emptyField g inside opening children = [] ∨ children = [] := by
  cases children with
  | nil => exact .inr rfl
  | cons => exact .inl (by simp [emptyField])

mutual

theorem nodeFields?_eq_visits (p : Place) (counts : LandmarkCounts) (node : Node) :
    nodeFields? g p counts node =
      (fieldsOf? g (visitsIn p counts node).1).map fun fields =>
        (fields, (visitsIn p counts node).2) := by
  match node with
  | .text value start =>
    rw [visitsIn_eq, nodeFields?, fieldsOf?_cons]
    cases h : textFields? g p value start <;>
      simp [h, Visit.fields?, Place.enter, visitsAmong, Node.children, fieldsOf?]
  | .comment _ _ | .doctype _ _ | .frontmatter _ _ => rfl
  | .expression children _ | .fragment children _ =>
    rw [visitsIn_eq, nodeFields?, nodesFields?_eq_visits, fieldsOf?_cons_of_nothing rfl]
    rfl
  | .tag opening children =>
    rw [visitsIn_eq, nodeFields?_tag, nodesFields?_eq_visits, fieldsOf?_cons]
    simp only [Visit.fields?, Place.enter, Place.within, Node.children]
    cases ownFields? g (p.inside counts opening children) opening with
    | none => rfl
    | some own =>
      -- the empty field stands behind the fields inside, but one of the two is missing
      rcases emptyField_eq_nil_or (p.inside counts opening children) opening children with
        hnil | rfl
      · rw [hnil]
        simp [Option.map_map, Function.comp_def]
      · simp [visitsAmong, fieldsOf?]

/-- The fields of some nodes are those found at the visits to them. -/
theorem nodesFields?_eq_visits (p : Place) (counts : LandmarkCounts) (nodes : List Node) :
    nodesFields? g p counts nodes =
      (fieldsOf? g (visitsAmong p counts nodes).1).map fun fields =>
        (fields, (visitsAmong p counts nodes).2) := by
  match nodes with
  | [] => rfl
  | node :: nodes =>
    rw [nodesFields?, visitsAmong, fieldsOf?_append, nodeFields?_eq_visits,
      Option.bind_eq_bind]
    cases fieldsOf? g (visitsIn p counts node).1 with
    | none => rfl
    | some first =>
      simp only [Option.map_some, Option.bind_some, nodesFields?_eq_visits]
      cases fieldsOf? g (visitsAmong p (visitsIn p counts node).2 nodes).1 <;> rfl

end

end FieldsOf

/-! ## Groups along the search -/

mutual

/-- The walk of a node is a part of every walk that the node stands in. -/
theorem walk_isPrefix_drop (node : Node) {k : Nat} {x : Node} (h : node.walk[k]? = some x) :
    x.walk <+: node.walk.drop k := by
  have hcons (children : List Node) (hwalk : node.walk = node :: walkAll children)
      (hchildren : ∀ k, (walkAll children)[k]? = some x → x.walk <+: (walkAll children).drop k) :
      x.walk <+: node.walk.drop k := by
    rw [hwalk] at h
    cases k with
    | zero =>
      obtain rfl := Option.some.inj h
      exact List.prefix_rfl
    | succ k =>
      rw [hwalk]
      exact hchildren k h
  match node with
  | .text _ _ | .comment _ _ | .doctype _ _ | .frontmatter _ _ =>
    exact hcons [] rfl fun _ h => nomatch h
  | .expression children _ | .fragment children _ | .tag _ children =>
    exact hcons children rfl fun _ h => walkAll_isPrefix_drop children h

theorem walkAll_isPrefix_drop (nodes : List Node) {k : Nat} {x : Node}
    (h : (walkAll nodes)[k]? = some x) : x.walk <+: (walkAll nodes).drop k := by
  match nodes with
  | [] => cases h
  | node :: nodes =>
    rw [walkAll] at h ⊢
    rcases Nat.lt_or_ge k node.walk.length with hlt | hge
    · rw [List.getElem?_append_left hlt] at h
      rw [List.drop_append_of_le_length (Nat.le_of_lt hlt)]
      exact (walk_isPrefix_drop node h).trans (List.prefix_append _ _)
    · rw [List.getElem?_append_right hge] at h
      rw [List.drop_append, List.drop_of_length_le hge, List.nil_append]
      exact walkAll_isPrefix_drop nodes h

end

/-- The counts say how many landmarks of each name some nodes are. -/
def LandmarkCounts.Count (counts : LandmarkCounts) (nodes : List Node) : Prop :=
  ∀ name, counts.of name = landmarkCount name nodes

/-- A group is the one of the nearest landmark around a node, as far as the search has passed. -/
structure Inherits (nodes : List Node) (passed i : Nat) (group : Text) : Prop where
  nearest : ∀ j < passed, IsAround nodes j i → (∀ j' < passed, IsAround nodes j' i → j' ≤ j) →
    group = landmarkId nodes j
  outside : (∀ j < passed, ¬ IsAround nodes j i) → group = []

section Steps

variable {nodes : List Node} {passed i : Nat} {p : Place} {counts : LandmarkCounts} {node : Node}

theorem behind_isPrefix {first others : List Node}
    (h : first ++ others <+: nodes.drop passed) : others <+: nodes.drop (passed + first.length) := by
  obtain ⟨rest, hrest⟩ := h
  rw [← List.drop_drop, ← hrest, List.append_assoc, List.drop_left]
  exact List.prefix_append _ _

/-- Where the walk of a node starts, the node stands. -/
theorem getElem?_of_walk (h : node.walk <+: nodes.drop passed) : nodes[passed]? = some node := by
  obtain ⟨rest, hrest⟩ := h
  rw [← Nat.add_zero passed, ← List.getElem?_drop, ← hrest, walk_eq_cons]
  rfl

/-- What a node encloses ends before the nodes behind it. -/
theorem not_isAround_of_behind (hwalk : node.walk <+: nodes.drop passed) {j : Nat}
    (hpassed : passed ≤ j) (hj : j < passed + node.walk.length)
    (hbehind : passed + node.walk.length ≤ i) : ¬ IsAround nodes j i := by
  rintro ⟨x, -, hx, -, -, hi⟩
  obtain ⟨rest, hrest⟩ := hwalk
  have hinside : (node.walk ++ rest)[j - passed]? = some x := by
    rw [hrest, List.getElem?_drop, Nat.add_sub_cancel' hpassed]
    exact getElem?_of_walk hx
  rw [List.getElem?_append_left (by omega)] at hinside
  have hle := (walk_isPrefix_drop node hinside).length_le
  rw [List.length_drop] at hle
  omega

/-- Nodes that do not enclose a node do not change its group. -/
theorem Inherits.pass {group : Text} (h : Inherits nodes passed i group) {passed' : Nat}
    (hle : passed ≤ passed') (hnone : ∀ j, passed ≤ j → j < passed' → ¬ IsAround nodes j i) :
    Inherits nodes passed' i group := by
  constructor
  · intro j hj haround hnearest
    rcases Nat.lt_or_ge j passed with hlt | hge
    · exact h.nearest j hlt haround fun j' hj' => hnearest j' (by omega)
    · exact absurd haround (hnone j hge hj)
  · exact fun houtside => h.outside fun j hj => houtside j (by omega)

theorem enter_of_landmark {name : Text} (h : landmark? node = some name) :
    (p.enter counts node).1.group = landmarkGroup name (counts.of name + 1) ∧
      (p.enter counts node).2 = (name, counts.of name + 1) :: counts := by
  cases node with
  | tag opening children =>
    rw [landmark?] at h
    split at h
    · next hlandmark =>
      cases h
      simp only [Place.enter, Place.inside, enterTag, if_pos hlandmark, and_self]
    · cases h
  | text | comment | doctype | frontmatter | expression | fragment => cases h

theorem enter_of_none (h : landmark? node = none) :
    (p.enter counts node).1.group = p.group ∧ (p.enter counts node).2 = counts := by
  cases node with
  | tag opening children =>
    rw [landmark?] at h
    split at h
    · cases h
    · next hlandmark =>
      simp only [Place.enter, Place.inside, enterTag, if_neg hlandmark, and_self]
  | text | comment | doctype | frontmatter | expression | fragment => exact ⟨rfl, rfl⟩

/-- The nodes in a node have its group. -/
theorem within_group : (p.within counts node).group = (p.enter counts node).1.group := by
  cases node <;> rfl

/-- A landmark is counted where the search enters it. -/
theorem count_enter (hnode : nodes[passed]? = some node)
    (hcounts : counts.Count (nodes.take passed)) :
    (p.enter counts node).2.Count (nodes.take (passed + 1)) := by
  intro name
  rw [landmarkCount_take_succ name hnode, ← hcounts name]
  cases hlandmark : landmark? node with
  | none => simp [(enter_of_none hlandmark).2]
  | some entered =>
    rw [(enter_of_landmark hlandmark).2]
    by_cases hname : entered = name
    · simp [LandmarkCounts.of, hname]
    · have hother : (name == entered) = false := beq_eq_false_iff_ne.2 (Ne.symm hname)
      simp [LandmarkCounts.of, List.lookup_cons, hname, hother]

/-- The group of a node is that of the nearest landmark around it, the node with it. -/
theorem Inherits.enter (hwalk : node.walk <+: nodes.drop passed)
    (hcounts : counts.Count (nodes.take passed)) (hle : passed ≤ i)
    (hlt : i < passed + node.walk.length) (h : Inherits nodes passed i p.group) :
    Inherits nodes (passed + 1) i (p.enter counts node).1.group := by
  have hnode := getElem?_of_walk hwalk
  cases hlandmark : landmark? node with
  | none =>
    rw [(enter_of_none hlandmark).1]
    refine h.pass (Nat.le_succ _) ?_
    rintro j hge hj ⟨node', name, hwalk', hname, -⟩
    obtain rfl : j = passed := by omega
    obtain rfl := Option.some.inj (hnode.symm.trans (getElem?_of_walk hwalk'))
    rw [hlandmark] at hname
    cases hname
  | some name =>
    have haround : IsAround nodes passed i := ⟨node, name, hwalk, hlandmark, hle, hlt⟩
    -- no landmark that was passed before can be nearer than the node itself
    constructor
    · intro j hj _ hnearest
      have hge := hnearest passed (Nat.lt_succ_self _) haround
      obtain rfl : j = passed := by omega
      have hname : landmarkAt? nodes j = some name := by
        rw [landmarkAt?, hnode]
        exact hlandmark
      rw [(enter_of_landmark hlandmark).1, landmarkId_eq hname, landmarkCount_take_succ name hnode,
        hcounts name, if_pos hlandmark]
    · exact fun houtside => absurd haround (houtside passed (Nat.lt_succ_self _))

end Steps

/-- What is found while the search passes some nodes: the counts go with the nodes, and each
visited node has the group of the nearest landmark around it. -/
structure Tracks (nodes : List Node) (passed width : Nat) (found : List Visit × LandmarkCounts) :
    Prop where
  count : found.2.Count (nodes.take (passed + width))
  inherits : ∀ k v, found.1[k]? = some v → Inherits nodes (passed + k + 1) (passed + k) v.place.group

section Tracks

variable {nodes : List Node} {passed : Nat} {p : Place} {counts : LandmarkCounts}

/-- A node and the nodes in it. -/
theorem Tracks.cons {node : Node} (hwalk : node.walk <+: nodes.drop passed)
    (hinherits : Inherits nodes passed passed p.group)
    (hcounts : counts.Count (nodes.take passed))
    (h : Tracks nodes (passed + 1) (walkAll node.children).length
      (visitsAmong (p.within counts node) (p.enter counts node).2 node.children)) :
    Tracks nodes passed node.walk.length (visitsIn p counts node) := by
  rw [visitsIn_eq]
  constructor
  · have hcount := h.count
    rwa [walk_eq_cons, List.length_cons, Nat.add_comm _ 1, ← Nat.add_assoc]
  · intro k v hv
    cases k with
    | zero =>
      cases hv
      exact hinherits.enter hwalk hcounts (Nat.le_refl _) (by simp [walk_eq_cons])
    | succ k =>
      have hchild := h.inherits k v hv
      rwa [Nat.add_right_comm passed 1 k] at hchild

theorem Tracks.append {first others : List Visit × LandmarkCounts} {width width' : Nat}
    (hfirst : Tracks nodes passed width first) (hwidth : first.1.length = width)
    (hothers : Tracks nodes (passed + width) width' others) :
    Tracks nodes passed (width + width') (first.1 ++ others.1, others.2) := by
  constructor
  · rw [← Nat.add_assoc]
    exact hothers.count
  · intro k v hv
    rcases Nat.lt_or_ge k first.1.length with hlt | hge
    · rw [List.getElem?_append_left hlt] at hv
      exact hfirst.inherits k v hv
    · rw [List.getElem?_append_right hge] at hv
      have hother := hothers.inherits _ v hv
      rwa [show passed + width + (k - first.1.length) = passed + k by omega] at hother

mutual

theorem tracks_visitsIn (p : Place) (counts : LandmarkCounts) (node : Node) (passed : Nat)
    (hwalk : node.walk <+: nodes.drop passed) (hcounts : counts.Count (nodes.take passed))
    (hgroup : ∀ i, passed ≤ i → i < passed + node.walk.length → Inherits nodes passed i p.group) :
    Tracks nodes passed node.walk.length (visitsIn p counts node) := by
  have hlength : node.walk.length = (walkAll node.children).length + 1 := by
    rw [walk_eq_cons, List.length_cons]
  have hinner : walkAll node.children <+: nodes.drop (passed + [node].length) := by
    rw [walk_eq_cons] at hwalk
    exact behind_isPrefix hwalk
  have hcounts' : (p.enter counts node).2.Count (nodes.take (passed + 1)) :=
    count_enter (getElem?_of_walk hwalk) hcounts
  have hgroup' : ∀ i, passed + 1 ≤ i → i < passed + 1 + (walkAll node.children).length →
      Inherits nodes (passed + 1) i (p.within counts node).group := by
    intro i hge hlt
    rw [within_group]
    exact (hgroup i (by omega) (by omega)).enter hwalk hcounts (by omega) (by omega)
  refine .cons hwalk (hgroup passed (Nat.le_refl _) (by omega)) hcounts ?_
  -- the nodes inside start from the group and the counts behind the start of this one
  match node with
  | .text _ _ | .comment _ _ | .doctype _ _ | .frontmatter _ _ => exact ⟨hcounts', nofun⟩
  | .expression children _ | .fragment children _ | .tag _ children =>
    exact tracks_visitsAmong _ _ children _ hinner hcounts' hgroup'

/-- The search keeps to the groups of the nearest landmarks. -/
theorem tracks_visitsAmong (p : Place) (counts : LandmarkCounts) (ns : List Node) (passed : Nat)
    (hwalk : walkAll ns <+: nodes.drop passed) (hcounts : counts.Count (nodes.take passed))
    (hgroup : ∀ i, passed ≤ i → i < passed + (walkAll ns).length →
      Inherits nodes passed i p.group) :
    Tracks nodes passed (walkAll ns).length (visitsAmong p counts ns) := by
  match ns with
  | [] => exact ⟨hcounts, nofun⟩
  | node :: ns =>
    have hfirst : node.walk <+: nodes.drop passed := (List.prefix_append _ _).trans hwalk
    have hothers : walkAll ns <+: nodes.drop (passed + node.walk.length) := behind_isPrefix hwalk
    have hlength : (walkAll (node :: ns)).length = node.walk.length + (walkAll ns).length := by
      rw [walkAll, List.length_append]
    have hvisits : (visitsIn p counts node).1.length = node.walk.length := by
      rw [← visitsIn_map_node p counts node, List.length_map]
    have htracks := tracks_visitsIn p counts node passed hfirst hcounts
      fun i hge hlt => hgroup i hge (by omega)
    rw [hlength, visitsAmong]
    refine htracks.append hvisits (tracks_visitsAmong p _ ns _ hothers htracks.count ?_)
    intro i hge hlt
    -- behind the node its group is the one before it again
    exact (hgroup i (by omega) (by omega)).pass (Nat.le_add_right _ _) fun j hpassed hj =>
      not_isAround_of_behind hfirst hpassed hj hge

end

end Tracks

/-! ## Groups of the nearest landmarks -/

section Group

variable {g : Ground} {own : List Field} {f : Field}

theorem group_of_mem_textFields? {p : Place} {value : Text} {start : Nat}
    (h : textFields? g p value start = some own) (hf : f ∈ own) : f.group = p.group := by
  unfold textFields? at h
  split at h
  · cases h
    cases hf
  · obtain ⟨holds, -, h⟩ := Option.bind_eq_some_iff.1 h
    split at h
    · cases h
      obtain rfl := List.mem_singleton.1 hf
      rfl
    · cases h
      cases hf

theorem group_of_mem_attributesFields? {group : Text} {opening : Tag}
    {attributes : List Document.Attribute}
    (h : attributesFields? g group opening attributes = some own) (hf : f ∈ own) :
    f.group = group := by
  induction attributes generalizing own with
  | nil =>
    cases h
    cases hf
  | cons a attributes ih =>
    obtain ⟨first, hfirst, h⟩ := Option.bind_eq_some_iff.1 h
    obtain ⟨others, hothers, h⟩ := Option.bind_eq_some_iff.1 h
    cases h
    rcases List.mem_append.1 hf with hf | hf
    · unfold attributeFields? at hfirst
      split at hfirst
      · split at hfirst
        · cases hfirst
          cases hf
        · obtain ⟨holds, -, hfirst⟩ := Option.bind_eq_some_iff.1 hfirst
          split at hfirst
          · cases hfirst
            obtain rfl := List.mem_singleton.1 hf
            rfl
          · cases hfirst
            cases hf
      · cases hfirst
        cases hf
    · exact ih hothers hf

theorem group_of_mem_emptyField {inside : Place} {opening : Tag} {children : List Node}
    (hf : f ∈ emptyField g inside opening children) : f.group = inside.group := by
  unfold emptyField emptyFields at hf
  split at hf
  · split at hf
    · cases hf
    · split at hf
      · cases hf
      · obtain rfl := List.mem_singleton.1 hf
        rfl
  · cases hf

/-- The fields of a visited node have the group of the place where they are looked for. -/
theorem group_of_mem_fields? {v : Visit} (h : v.fields? g = some own) (hf : f ∈ own) :
    f.group = v.place.group := by
  unfold Visit.fields? at h
  split at h
  · exact group_of_mem_textFields? h hf
  · obtain ⟨attributes, hattributes, rfl⟩ := Option.map_eq_some_iff.1 h
    rcases List.mem_append.1 hf with hf | hf
    · unfold ownFields? at hattributes
      split at hattributes
      · cases hattributes
        cases hf
      · exact group_of_mem_attributesFields? hattributes hf
    · exact group_of_mem_emptyField hf
  · cases h
    cases hf

end Group

theorem visits_map_node (d : Document) : (visits d).map Visit.node = d.nodes :=
  visitsAmong_map_node _ _ d.children

/-- The fields of a document are those found at its visits. -/
theorem ofDocument?_eq_visits (g : Ground) (d : Document) :
    ofDocument? g d = fieldsOf? g (visits d) := by
  rw [ofDocument?, nodesFields?_eq_visits, Option.map_map]
  exact Option.map_id'

/-- A visited node has the group of the nearest landmark around it. -/
theorem inherits_of_visits {d : Document} {i : Nat} {v : Visit} (h : (visits d)[i]? = some v) :
    Inherits d.nodes (i + 1) i v.place.group := by
  have hroot : ∀ i, Inherits d.nodes 0 i [] := fun i => ⟨nofun, fun _ => rfl⟩
  have htracks : Tracks d.nodes 0 (walkAll d.children).length
      (visitsAmong ⟨none, d.children.any isStructure, false, []⟩ [] d.children) :=
    tracks_visitsAmong _ _ _ 0 List.prefix_rfl (fun _ => rfl) fun i _ _ => hroot i
  have hinherits := htracks.inherits i v h
  rwa [Nat.zero_add] at hinherits

/-- A landmark has its own group. -/
theorem group_of_landmark {d : Document} {i : Nat} {v : Visit} {name : Text}
    (hv : (visits d)[i]? = some v) (hname : landmark? v.node = some name) :
    landmarkAt? d.nodes i = some name ∧ v.place.group = landmarkId d.nodes i := by
  have hnode : d.nodes[i]? = some v.node := by
    rw [← visits_map_node, List.getElem?_map, hv]
    rfl
  have hlandmark : landmarkAt? d.nodes i = some name := by
    rw [landmarkAt?, hnode]
    exact hname
  have haround : IsAround d.nodes i i :=
    ⟨v.node, name, walkAll_isPrefix_drop d.children hnode, hname, Nat.le_refl _,
      by simp [walk_eq_cons]⟩
  exact ⟨hlandmark, (inherits_of_visits hv).nearest i (Nat.lt_succ_self i) haround fun j hj _ =>
    Nat.le_of_lt_succ hj⟩

/-- The fields of a document are those of its nodes in the order of the page, and each has the
group of the nearest landmark that is the node it was found for or encloses it, or the empty one.
The `k`-th landmark of a name, in the order of the page and wherever it stands, has the name as its
group if `k` is one, and else the name with `k`; so no two landmarks share a group. -/
theorem groups_unique_and_nearest (g : Ground) (d : Document) :
    (visits d).map Visit.node = d.nodes ∧
    ofDocument? g d = ((visits d).mapM (Visit.fields? g)).map List.flatten ∧
    (∀ i v, (visits d)[i]? = some v →
      (∀ name, landmark? v.node = some name → v.place.group =
        landmarkGroup name (landmarkCount name (d.nodes.take (i + 1)))) ∧
      ∀ own, v.fields? g = some own → ∀ f ∈ own,
        (∀ j, IsNearest d.nodes j i → f.group = landmarkId d.nodes j) ∧
          ((∀ j, ¬ IsAround d.nodes j i) → f.group = [])) ∧
    ∀ (i j : Nat) (v v' : Visit) (name name' : Text),
      (visits d)[i]? = some v → (visits d)[j]? = some v' →
      landmark? v.node = some name → landmark? v'.node = some name' →
        v.place.group = v'.place.group → i = j := by
  refine ⟨visits_map_node d, ofDocument?_eq_visits g d, fun i v hv => ⟨?_, ?_⟩, ?_⟩
  · intro name hname
    obtain ⟨hlandmark, hgroup⟩ := group_of_landmark hv hname
    rw [hgroup, landmarkId_eq hlandmark]
  · intro own hown f hf
    rw [group_of_mem_fields? hown hf]
    have hinherits := inherits_of_visits hv
    constructor
    · rintro j ⟨haround, hnearest⟩
      exact hinherits.nearest j (Nat.lt_succ_of_le haround.le) haround fun j' _ => hnearest j'
    · exact fun hnone => hinherits.outside fun j _ => hnone j
  · intro i j v v' name name' hv hv' hname hname' heq
    obtain ⟨hlandmark, hgroup⟩ := group_of_landmark hv hname
    obtain ⟨hlandmark', hgroup'⟩ := group_of_landmark hv' hname'
    rw [hgroup, hgroup'] at heq
    exact landmarkId_inj hlandmark hlandmark' heq

/-- A text in the third section of a page, of which the second one stands in an expression. -/
theorem groups_unique_and_nearest_of_sections : ∃ (g : Ground) (d : Document) (v : Visit)
    (own : List Field) (f : Field), (visits d)[5]? = some v ∧ v.fields? g = some own ∧ f ∈ own ∧
      IsNearest d.nodes 4 5 ∧ f.group = landmarkId d.nodes 4 ∧
        landmarkId d.nodes 4 = text "section:3" := by
  let g : Ground := ⟨(text "<section>a</section>\x7b<section></section>\x7d<section>b</section>").bytes,
    2000⟩
  let section' (position : Nat) : Tag := ⟨.element, text "section", [], position, false⟩
  let d : Document := ⟨[.tag (section' 0) [.text (text "a") 9],
    .expression [.tag (section' 21) []] 20, .tag (section' 41) [.text (text "b") 50]]⟩
  have haround : IsAround d.nodes 4 5 :=
    ⟨.tag (section' 41) [.text (text "b") 50], text "section", List.prefix_rfl, by decide,
      by decide, by decide⟩
  have hnearest : IsNearest d.nodes 4 5 := by
    refine ⟨haround, fun j hj => ?_⟩
    have hle := hj.le
    obtain ⟨node, name, hwalk, hname, -⟩ := hj
    by_contra hgt
    -- the node itself is a text
    obtain rfl : j = 5 := by omega
    cases getElem?_of_walk hwalk
    cases hname
  have hfound : (visits d)[5]?.bind (Visit.fields? g) =
      some [ofText 50 (text "section text") (text "b") (text "section:3")] := by
    decide +kernel
  obtain ⟨v, hvisit, hfields⟩ := Option.bind_eq_some_iff.1 hfound
  have hgroups := (groups_unique_and_nearest g d).2.2.1 5 v hvisit
  exact ⟨g, d, v, _, _, hvisit, hfields, .head _, hnearest,
    (hgroups.2 _ hfields _ (.head _)).1 4 hnearest, by decide +kernel⟩

/-- The second section stands in an expression, where no fields are found; it is counted. -/
example : ((ofPage 2000 (text
    "<section>a</section>{b && <section>c</section>}<section>d<nav>e</nav>f</section>g")).map
      fun fields => fields.map Field.group).toOption =
    some (["section", "section:3", "nav", "section:3", ""].map text) := by
  decide +kernel

end VisibleText.Field
