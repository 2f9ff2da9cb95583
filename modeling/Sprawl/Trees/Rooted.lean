/-
This file gives trees with a root, as lists of nodes and of links, and how they grow.
-/

import Mathlib.Data.List.Nodup
import Mathlib.Logic.Relation

namespace Trees

variable {ν : Type}

/-- A path along the links. -/
def Reaches (links : List (ν × ν)) : ν → ν → Prop :=
  Relation.ReflTransGen fun src dst => (src, dst) ∈ links

/-- Every node is reached from the root, and every node but the root has one link that leads to it. -/
structure Rooted (root : ν) (nodes : List ν) (links : List (ν × ν)) : Prop where
  inside : root ∈ nodes
  distinct : nodes.Nodup
  closed : ∀ link ∈ links, link.1 ∈ nodes ∧ link.2 ∈ nodes
  size : links.length + 1 = nodes.length
  reaches : ∀ node ∈ nodes, Reaches links root node
  parentless : root ∉ links.map (·.2)
  oneParent : (links.map (·.2)).Nodup

theorem Reaches.append {links : List (ν × ν)} (more : List (ν × ν)) {src dst : ν}
    (path : Reaches links src dst) : Reaches (links ++ more) src dst :=
  Relation.ReflTransGen.mono (fun _ _ inside => List.mem_append_left more inside) _ _ path

namespace Rooted

variable {root : ν} {nodes : List ν} {links : List (ν × ν)}

theorem single (root : ν) : Rooted root [root] [] where
  inside := List.mem_singleton_self root
  distinct := List.nodup_singleton root
  closed := fun _ inside => absurd inside List.not_mem_nil
  size := rfl
  reaches node inside := by
    rw [List.mem_singleton.mp inside]
    exact .refl
  parentless := List.not_mem_nil
  oneParent := List.nodup_nil

/-- A tree grows by a new node that hangs on one of its nodes. -/
theorem leaf (tree : Rooted root nodes links) {parent node : ν} (hangs : parent ∈ nodes)
    (fresh : node ∉ nodes) : Rooted root (nodes ++ [node]) (links ++ [(parent, node)]) where
  inside := List.mem_append_left _ tree.inside
  distinct := by
    refine List.nodup_append.mpr ⟨tree.distinct, List.nodup_singleton node, ?_⟩
    intro old inside new here same
    rw [same, List.mem_singleton.mp here] at inside
    exact fresh inside
  closed := by
    refine List.forall_mem_append.mpr ⟨fun link inside => ?_, List.forall_mem_singleton.mpr ?_⟩
    · obtain ⟨src, dst⟩ := tree.closed link inside
      exact ⟨List.mem_append_left _ src, List.mem_append_left _ dst⟩
    · exact ⟨List.mem_append_left _ hangs, List.mem_append_right _ (List.mem_singleton_self node)⟩
  size := by
    rw [List.length_append, List.length_append, ← tree.size]
    rfl
  reaches := by
    have link : (parent, node) ∈ links ++ [(parent, node)] :=
      List.mem_append_right _ (List.mem_singleton_self _)
    refine List.forall_mem_append.mpr ⟨fun old inside => (tree.reaches old inside).append _, ?_⟩
    exact List.forall_mem_singleton.mpr (((tree.reaches parent hangs).append _).tail link)
  parentless := by
    rw [List.map_append, List.mem_append, not_or]
    refine ⟨tree.parentless, fun here => fresh ?_⟩
    obtain rfl : root = node := List.mem_singleton.mp here
    exact tree.inside
  oneParent := by
    rw [List.map_append]
    refine List.nodup_append.mpr ⟨tree.oneParent, List.nodup_singleton node, ?_⟩
    intro old inside new here same
    obtain ⟨link, among, rfl⟩ := List.mem_map.mp inside
    have known := (tree.closed link among).2
    rw [same, List.mem_singleton.mp here] at known
    exact fresh known

/-- A tree grows by a list of new nodes that hang on one of its nodes. -/
theorem fan (tree : Rooted root nodes links) {parent : ν} (hangs : parent ∈ nodes) {leaves : List ν}
    (distinct : (nodes ++ leaves).Nodup) :
    Rooted root (nodes ++ leaves) (links ++ leaves.map (parent, ·)) := by
  induction leaves generalizing nodes links with
  | nil => simpa using tree
  | cons node rest ih =>
      rw [List.append_cons] at distinct
      have fresh : node ∉ nodes := fun inside =>
        (List.nodup_append.mp (List.nodup_append.mp distinct).1).2.2 node inside node
          (List.mem_singleton_self node) rfl
      have grown := ih (tree.leaf hangs fresh) (List.mem_append_left _ hangs) distinct
      rw [List.append_cons nodes, List.map_cons, List.append_cons links]
      exact grown

end Rooted

end Trees
