/-
This file proves that the picture of a blast radius shows every row in a place of its own.
-/

import Mathlib.Data.List.Induction
import Mathlib.Data.List.Nodup
import Sprawl.Web.BlastRadiusGraph

namespace Sprawl

section Map

variable {κ ν : Type} [DecidableEq κ]

theorem pushAt_lookup (key other : κ) (value : ν) (groups : List (κ × List ν)) :
    (pushAt key value groups).lookup other =
      if other = key then some ((groups.lookup key).getD [] ++ [value])
      else groups.lookup other := by
  induction groups with
  | nil =>
      by_cases same : other = key
      · simp [pushAt, same]
      · have unlike : (other == key) = false := beq_false_of_ne same
        simp [pushAt, same, unlike, List.lookup_cons]
  | cons group rest ih =>
      obtain ⟨first, values⟩ := group
      rw [pushAt]
      by_cases found : first = key
      · subst found
        rw [if_pos rfl]
        by_cases same : other = first
        · simp [same]
        · have unlike : (other == first) = false := beq_false_of_ne same
          simp [same, unlike, List.lookup_cons]
      · rw [if_neg found, List.lookup_cons, List.lookup_cons, List.lookup_cons, ih]
        have differs : (key == first) = false := beq_false_of_ne (Ne.symm found)
        by_cases same : other = first
        · subst same
          simp [found]
        · have unlike : (other == first) = false := beq_false_of_ne same
          simp [unlike, differs]

theorem pushAt_keys (key : κ) (value : ν) {groups : List (κ × List ν)}
    (nodup : (groups.map (·.1)).Nodup) : ((pushAt key value groups).map (·.1)).Nodup ∧
      ∀ other ∈ (pushAt key value groups).map (·.1), other = key ∨ other ∈ groups.map (·.1) := by
  induction groups with
  | nil => simp [pushAt]
  | cons group rest ih =>
      obtain ⟨first, values⟩ := group
      rw [List.map_cons, List.nodup_cons] at nodup
      rw [pushAt]
      split
      · exact ⟨List.nodup_cons.mpr nodup, fun other inside => Or.inr inside⟩
      · next different =>
          obtain ⟨later, keys⟩ := ih nodup.2
          refine ⟨List.nodup_cons.mpr ⟨fun inside => ?_, later⟩, fun other inside => ?_⟩
          · obtain same | earlier := keys first inside
            · exact different same
            · exact nodup.1 earlier
          · rw [List.map_cons, List.mem_cons] at inside ⊢
            obtain same | later := inside
            · exact Or.inr (Or.inl same)
            · exact (keys other later).imp_right Or.inr

theorem lookup_of_mem {pairs : List (κ × ν)} {key : κ} {value : ν}
    (nodup : (pairs.map (·.1)).Nodup) (inside : (key, value) ∈ pairs) :
    pairs.lookup key = some value := by
  induction pairs with
  | nil => exact absurd inside List.not_mem_nil
  | cons pair rest ih =>
      rw [List.map_cons, List.nodup_cons] at nodup
      obtain same | later := List.mem_cons.mp inside
      · subst same
        exact List.lookup_cons_self
      · have different : key ≠ pair.1 := fun same =>
          nodup.1 (same ▸ List.mem_map_of_mem (f := (·.1)) later)
        rw [List.lookup_cons, beq_false_of_ne different]
        exact ih nodup.2 later

/-- A map holds a value that is the only one that was set for its key. -/
theorem getLast_of_only {settings : List (κ × ν)} {key : κ} {value : ν}
    (inside : (key, value) ∈ settings) (only : ∀ other, (key, other) ∈ settings → other = value) :
    getLast key settings = some value := by
  rw [getLast]
  cases found : settings.reverse.lookup key with
  | none =>
      rw [List.lookup_eq_none_iff] at found
      have differs := found (key, value) (List.mem_reverse.mpr inside)
      simp at differs
  | some other =>
      obtain ⟨before, after, split, _⟩ := List.lookup_eq_some_iff.mp found
      have member : (key, other) ∈ settings.reverse := by
        rw [split]
        exact List.mem_append_right _ List.mem_cons_self
      rw [only other (List.mem_reverse.mp member)]

end Map

section Levels

variable (nodes : List GraphNode)

/-- The nodes of a level. -/
def levelOf (level : Int) : List GraphNode := nodes.filter (·.kind.level = level)

theorem levelOf_append (node : GraphNode) (level : Int) :
    levelOf (nodes ++ [node]) level =
      levelOf nodes level ++ if node.kind.level = level then [node] else [] := by
  by_cases same : node.kind.level = level <;> simp [levelOf, same]

theorem byLevel_groups : ((byLevel nodes).map (·.1)).Nodup ∧
    ∀ level, (byLevel nodes).lookup level =
      if levelOf nodes level = [] then none else some (levelOf nodes level) := by
  induction nodes using List.reverseRecOn with
  | nil => exact ⟨List.nodup_nil, fun level => rfl⟩
  | append_singleton nodes node ih =>
      obtain ⟨nodup, groups⟩ := ih
      have pushed : byLevel (nodes ++ [node]) = pushAt node.kind.level node (byLevel nodes) := by
        rw [byLevel, List.foldl_append]
        rfl
      rw [pushed]
      refine ⟨(pushAt_keys _ _ nodup).1, fun level => ?_⟩
      rw [pushAt_lookup, groups, groups, levelOf_append]
      by_cases same : level = node.kind.level
      · subst same
        rw [if_pos rfl, if_pos rfl]
        by_cases empty : levelOf nodes node.kind.level = []
        · simp [empty]
        · simp [empty]
      · have different : ¬ node.kind.level = level := fun equal => same equal.symm
        simp [same, different]

/-- A group of the map holds the nodes of its level. -/
theorem mem_byLevel {level : Int} {items : List GraphNode} :
    (level, items) ∈ byLevel nodes ↔ items = levelOf nodes level ∧ items ≠ [] := by
  obtain ⟨nodup, groups⟩ := byLevel_groups nodes
  constructor
  · intro inside
    have found := lookup_of_mem nodup inside
    rw [groups] at found
    split at found
    · cases found
    · next some_node =>
        obtain rfl := Option.some.inj found
        exact ⟨rfl, some_node⟩
  · rintro ⟨rfl, some_node⟩
    have found := groups level
    rw [if_neg some_node] at found
    obtain ⟨before, after, split, _⟩ := List.lookup_eq_some_iff.mp found
    rw [split]
    exact List.mem_append_right _ List.mem_cons_self

/-- The place of the node at an index of a level. -/
def placeAt (level : Int) (index : Nat) : Position where
  x := index * (nodeW + hGap) -
    ((levelOf nodes level).length * nodeW + ((levelOf nodes level).length - 1) * hGap) / 2 +
      nodeW / 2
  y := level * (nodeH + vGap)

theorem mem_computeLayout {id : Uuid} {position : Position} :
    (id, position) ∈ computeLayout nodes ↔ ∃ level index node,
      (levelOf nodes level)[index]? = some node ∧ node.id = id ∧
        placeAt nodes level index = position := by
  simp only [computeLayout, List.mem_flatMap, Prod.exists, mem_byLevel, levelPositions]
  constructor
  · rintro ⟨level, items, ⟨rfl, _⟩, inside⟩
    obtain ⟨index, within, same⟩ := List.mem_mapIdx.mp inside
    obtain ⟨rfl, rfl⟩ := Prod.mk.inj same
    exact ⟨level, index, _, List.getElem?_eq_getElem within, rfl, rfl⟩
  · rintro ⟨level, index, node, found, rfl, rfl⟩
    obtain ⟨within, rfl⟩ := List.getElem?_eq_some_iff.mp found
    refine ⟨level, _, ⟨rfl, fun empty => ?_⟩, List.mem_mapIdx.mpr ⟨index, within, rfl⟩⟩
    rw [empty] at within
    exact absurd within (Nat.not_lt_zero index)

variable {nodes}

/-- Every node is at its index of its level. -/
theorem placed (unique : (nodes.map (·.id)).Nodup) {node : GraphNode} (inside : node ∈ nodes) :
    ∃ index, (levelOf nodes node.kind.level)[index]? = some node ∧
      getLast node.id (computeLayout nodes) = some (placeAt nodes node.kind.level index) := by
  have member : node ∈ levelOf nodes node.kind.level :=
    List.mem_filter.mpr ⟨inside, decide_eq_true rfl⟩
  obtain ⟨index, found⟩ := List.mem_iff_getElem?.mp member
  refine ⟨index, found, getLast_of_only ((mem_computeLayout nodes).mpr
    ⟨_, index, node, found, rfl, rfl⟩) ?_⟩
  intro other set
  obtain ⟨level, place, same, there, equal, rfl⟩ := (mem_computeLayout nodes).mp set
  obtain ⟨within, levels⟩ := List.mem_filter.mp (List.mem_of_getElem? there)
  obtain rfl : same = node := List.inj_on_of_nodup_map unique within inside equal
  obtain rfl : same.kind.level = level := of_decide_eq_true levels
  have nodup : (levelOf nodes same.kind.level).Nodup := (unique.of_map _).filter _
  obtain ⟨left, first⟩ := List.getElem?_eq_some_iff.mp there
  obtain ⟨right, second⟩ := List.getElem?_eq_some_iff.mp found
  rw [(nodup.getElem_inj_iff).mp (first.trans second.symm)]

/-- The first box ends before the second one begins, with the gap of the layout between them. -/
def Position.Before (first second : Position) : Prop :=
  first.x + nodeW + hGap ≤ second.x ∨ first.y + nodeH + vGap ≤ second.y

/-- Nodes of a higher level are placed further down. -/
theorem placeAt_below {first second : Int} (below : first < second) (index other : Nat) :
    (placeAt nodes first index).y + nodeH + vGap ≤ (placeAt nodes second other).y := by
  simp only [placeAt, nodeH, vGap]
  omega

theorem placeAt_right (level : Int) {index other : Nat} (before : index < other) :
    (placeAt nodes level index).x + nodeW + hGap ≤ (placeAt nodes level other).x := by
  simp only [placeAt, nodeW, hGap]
  omega

/-- Two nodes are placed apart. -/
theorem placeAt_apart {first second : GraphNode} {index other : Nat} (different : first ≠ second)
    (found : (levelOf nodes first.kind.level)[index]? = some first)
    (there : (levelOf nodes second.kind.level)[other]? = some second) :
    (placeAt nodes first.kind.level index).Before (placeAt nodes second.kind.level other) ∨
      (placeAt nodes second.kind.level other).Before (placeAt nodes first.kind.level index) := by
  obtain below | same | above := lt_trichotomy first.kind.level second.kind.level
  · exact Or.inl (Or.inr (placeAt_below below index other))
  · rw [same] at found ⊢
    obtain before | equal | behind := lt_trichotomy index other
    · exact Or.inl (Or.inl (placeAt_right _ before))
    · subst equal
      exact absurd (Option.some.inj (found.symm.trans there)) different
    · exact Or.inr (Or.inl (placeAt_right _ behind))
  · exact Or.inr (Or.inr (placeAt_below above other index))

end Levels

section Picture

/-- Every edge leads from a node to a node of a higher level. -/
def Descending (nodes : List GraphNode) (edges : List GraphEdge) : Prop :=
  ∀ edge ∈ edges, ∃ source ∈ nodes, ∃ target ∈ nodes, source.id = edge.srcNodeId ∧
    target.id = edge.dstNodeId ∧ source.kind.level < target.kind.level

/-- The boxes of a picture lie apart, and every edge leads from a box to a box below it. -/
structure Pictured (nodes : List FlowNode) (edges : List FlowEdge) : Prop where
  unique : (nodes.map (·.id)).Nodup
  apart : nodes.Pairwise fun first second =>
    first.position.Before second.position ∨ second.position.Before first.position
  down : ∀ edge ∈ edges, ∃ source ∈ nodes, ∃ target ∈ nodes, source.id = edge.source ∧
    target.id = edge.target ∧ source.position.y + nodeH + vGap ≤ target.position.y

/-- A graph with unique identifiers and descending edges is drawn well. -/
theorem toFlow_pictured {nodes : List GraphNode} {edges : List GraphEdge}
    (unique : (nodes.map (·.id)).Nodup) (descending : Descending nodes edges) :
    Pictured (toFlowNodes nodes) (toFlowEdges edges) where
  unique := by
    rw [toFlowNodes, List.map_map]
    exact unique
  apart := by
    rw [toFlowNodes, List.pairwise_map]
    refine (unique.of_map _).pairwise_of_forall_ne ?_
    intro first firstInside second secondInside other
    obtain ⟨index, found, position⟩ := placed unique firstInside
    obtain ⟨place, there, second_position⟩ := placed unique secondInside
    dsimp only
    rw [position, second_position]
    exact placeAt_apart other found there
  down := by
    rw [toFlowEdges, List.forall_mem_map]
    intro edge inside
    obtain ⟨source, sourceInside, target, targetInside, begins, ends, below⟩ :=
      descending edge inside
    refine ⟨_, List.mem_map_of_mem sourceInside, _, List.mem_map_of_mem targetInside, begins,
      ends, ?_⟩
    obtain ⟨index, _, position⟩ := placed unique sourceInside
    obtain ⟨place, _, second_position⟩ := placed unique targetInside
    dsimp only
    rw [position, second_position]
    exact placeAt_below below index place

end Picture

end Sprawl
