/-
This file proves that the graph of a builder is a tree whose root is the secret.
-/

import Sprawl.Proof.Refresh
import Sprawl.Trees.Rooted

namespace Sprawl

/-- The link from the source of an edge to its destination. -/
def GraphEdgeData.link (edge : GraphEdgeData) : Uuid × Uuid := (edge.srcNodeId, edge.dstNodeId)

/-- The node stands for the resource. -/
structure GraphNodeData.Shows (node : GraphNodeData) (resource : ResourceRef) : Prop where
  kind : node.kind = .resource
  label : node.label = resource.label
  arn : node.attrs.lookup "arn" = some (.str resource.arn)

namespace BlastRadiusBuilder

variable (builder : BlastRadiusBuilder)

/-- The rows are of the secret and of the workspace of the builder. The graph is a tree with the one
secret node as its root. Each resource has a node and an access of the principal. -/
structure WellFormed (resources : List ResourceRef) (nodes : List GraphNodeData)
    (edges : List GraphEdgeData) : Prop where
  nodesOwned : ∀ node ∈ nodes,
    node.secretId = builder.secretId ∧ node.workspaceId = builder.workspaceId
  edgesOwned : ∀ edge ∈ edges,
    edge.secretId = builder.secretId ∧ edge.workspaceId = builder.workspaceId
  tree : ∃ root ∈ nodes, root.kind = .secret ∧ (∀ other ∈ nodes, other.kind = .secret → other = root) ∧
    Trees.Rooted root.id (nodes.map (·.id)) (edges.map (·.link))
  resourceNodes : List.Forall₂ GraphNodeData.Shows (nodes.filter (·.kind = .resource)) resources
  accesses : ∃ principal ∈ nodes, principal.kind = .principal ∧
    (edges.filter (·.kind = .grantsAccessTo)).map (·.link) =
      (nodes.filter (·.kind = .resource)).map fun node => (principal.id, node.id)

/-- A node of a kind hangs on another node with an edge of a kind. -/
structure Hangs (parent : Uuid) (kind : NodeKind) (edgeKind : EdgeKind)
    (part : GraphNodeData × GraphEdgeData) : Prop where
  nodeOwned : part.1.secretId = builder.secretId ∧ part.1.workspaceId = builder.workspaceId
  edgeOwned : part.2.secretId = builder.secretId ∧ part.2.workspaceId = builder.workspaceId
  kind : part.1.kind = kind
  edgeKind : part.2.kind = edgeKind
  link : part.2.link = (parent, part.1.id)

section Parts

variable {builder} {parent : Uuid} {kind : NodeKind} {edgeKind : EdgeKind}
  {parts : List (GraphNodeData × GraphEdgeData)}

/-- The links of such parts form a fan. -/
theorem hang_links (hang : ∀ part ∈ parts, builder.Hangs parent kind edgeKind part) :
    (parts.map (·.2)).map (·.link) = ((parts.map (·.1)).map (·.id)).map (parent, ·) := by
  rw [List.map_map, List.map_map, List.map_map]
  exact List.map_congr_left fun part inside => (hang part inside).link

theorem hang_filter_kind (hang : ∀ part ∈ parts, builder.Hangs parent kind edgeKind part)
    (wanted : NodeKind) : (parts.map (·.1)).filter (·.kind = wanted) =
      if kind = wanted then parts.map (·.1) else [] := by
  split
  · next same =>
      rw [List.filter_eq_self, List.forall_mem_map]
      exact fun part inside => decide_eq_true ((hang part inside).kind.trans same)
  · next other =>
      rw [List.filter_eq_nil_iff, List.forall_mem_map]
      intro part inside same
      exact other ((hang part inside).kind.symm.trans (of_decide_eq_true same))

theorem hang_filter_edgeKind (hang : ∀ part ∈ parts, builder.Hangs parent kind edgeKind part)
    (wanted : EdgeKind) : (parts.map (·.2)).filter (·.kind = wanted) =
      if edgeKind = wanted then parts.map (·.2) else [] := by
  split
  · next same =>
      rw [List.filter_eq_self, List.forall_mem_map]
      exact fun part inside => decide_eq_true ((hang part inside).edgeKind.trans same)
  · next other =>
      rw [List.filter_eq_nil_iff, List.forall_mem_map]
      intro part inside same
      exact other ((hang part inside).edgeKind.symm.trans (of_decide_eq_true same))

end Parts

section Build

variable (principal : Uuid) (drawn : Nat) (resources : List ResourceRef)
  (storeVerify : Option StoreVerification)

theorem resourceParts_hang : ∀ part ∈ builder.resourceParts principal drawn resources,
    builder.Hangs principal .resource .grantsAccessTo part := by
  induction resources generalizing drawn with
  | nil => exact fun _ inside => absurd inside List.not_mem_nil
  | cons resource rest ih =>
      rw [resourceParts, List.forall_mem_cons]
      exact ⟨⟨⟨rfl, rfl⟩, ⟨rfl, rfl⟩, rfl, rfl, rfl⟩, ih (drawn + 2)⟩

theorem storeParts_hang : ∀ part ∈ builder.storeParts drawn storeVerify,
    builder.Hangs builder.secretNode.id .storeEntry .storedIn part := by
  cases storeVerify with
  | none => exact fun _ inside => absurd inside List.not_mem_nil
  | some verified =>
      rw [storeParts, List.forall_mem_singleton]
      exact ⟨⟨rfl, rfl⟩, ⟨rfl, rfl⟩, rfl, rfl, rfl⟩

/-- The nodes of the resources stand for them, in the order of the list. -/
theorem resourceParts_show : List.Forall₂ GraphNodeData.Shows
    ((builder.resourceParts principal drawn resources).map (·.1)) resources := by
  induction resources generalizing drawn with
  | nil => exact .nil
  | cons resource rest ih => exact .cons ⟨rfl, rfl, rfl⟩ (ih (drawn + 2))

end Build

section Tree

variable (principal : PrincipalRef) (resources : List ResourceRef)
  (storeVerify : Option StoreVerification)

/-- The principal and the store hang on the secret, and the resources on the principal. -/
theorem build_rooted (distinct : Function.Injective builder.uuid4) :
    let built := builder.build principal resources storeVerify
    Trees.Rooted builder.secretNode.id (built.1.map (·.id)) (built.2.1.map (·.link)) := by
  intro built
  let parts := builder.resourceParts (builder.principalNode principal).id 3 resources
  let store := builder.storeParts (3 + 2 * resources.length) storeVerify
  have nodup : ([builder.secretNode.id] ++ [(builder.principalNode principal).id] ++
      (parts.map (·.1)).map (·.id) ++ (store.map (·.1)).map (·.id)).Nodup := by
    have draws := (node_draws_nodup resources storeVerify).map distinct
    rw [← builder.build_node_ids principal resources storeVerify] at draws
    simpa [build] using draws
  have nodes : built.1.map (·.id) = [builder.secretNode.id] ++
      [(builder.principalNode principal).id] ++ (parts.map (·.1)).map (·.id) ++
        (store.map (·.1)).map (·.id) := by
    simp [built, build, parts, store]
  have links : built.2.1.map (·.link) =
      [] ++ [(builder.secretNode.id, (builder.principalNode principal).id)] ++
        ((parts.map (·.1)).map (·.id)).map ((builder.principalNode principal).id, ·) ++
          ((store.map (·.1)).map (·.id)).map (builder.secretNode.id, ·) := by
    rw [← hang_links (builder.resourceParts_hang _ _ resources),
      ← hang_links (builder.storeParts_hang _ storeVerify)]
    simp [built, build]
    rfl
  have apart : (builder.principalNode principal).id ∉ [builder.secretNode.id] := by
    intro same
    have both := ((List.nodup_append.mp nodup).1.of_append_left)
    exact (List.nodup_append.mp both).2.2 _ same _ (List.mem_singleton_self _) rfl
  have hung := (Trees.Rooted.single builder.secretNode.id).leaf (List.mem_singleton_self _) apart
  rw [nodes, links]
  refine (hung.fan ?_ (List.nodup_append.mp nodup).1).fan ?_ nodup
  · exact List.mem_append_right _ (List.mem_singleton_self _)
  · exact List.mem_append_left _ (List.mem_append_left _ (List.mem_singleton_self _))

/-- The resource nodes of a graph are those that hang below the principal. -/
theorem build_resourceNodes :
    (builder.build principal resources storeVerify).1.filter (·.kind = .resource) =
      (builder.resourceParts (builder.principalNode principal).id 3 resources).map (·.1) := by
  change List.filter _ (_ :: _ :: List.map _ _) = _
  rw [List.filter_cons_of_neg Bool.false_ne_true, List.filter_cons_of_neg Bool.false_ne_true,
    List.map_append, List.filter_append,
    hang_filter_kind (builder.resourceParts_hang _ 3 resources),
    hang_filter_kind (builder.storeParts_hang _ storeVerify), if_pos rfl,
    if_neg NodeKind.noConfusion, List.append_nil]

/-- The edges that grant access are those of the resource nodes. -/
theorem build_accesses :
    (builder.build principal resources storeVerify).2.1.filter (·.kind = .grantsAccessTo) =
      (builder.resourceParts (builder.principalNode principal).id 3 resources).map (·.2) := by
  change List.filter _ (_ :: List.map _ _) = _
  rw [List.filter_cons_of_neg Bool.false_ne_true, List.map_append, List.filter_append,
    hang_filter_edgeKind (builder.resourceParts_hang _ 3 resources),
    hang_filter_edgeKind (builder.storeParts_hang _ storeVerify), if_pos rfl,
    if_neg EdgeKind.noConfusion, List.append_nil]

/-- A graph is well-formed if `uuid4` draws no value twice. -/
theorem build_wellFormed (distinct : Function.Injective builder.uuid4) :
    builder.WellFormed resources (builder.build principal resources storeVerify).1
      (builder.build principal resources storeVerify).2.1 := by
  have parts := builder.resourceParts_hang (builder.principalNode principal).id 3 resources
  have store := builder.storeParts_hang (3 + 2 * resources.length) storeVerify
  have every : ∀ part ∈ builder.resourceParts (builder.principalNode principal).id 3 resources ++
      builder.storeParts (3 + 2 * resources.length) storeVerify,
      ∃ parent kind edgeKind, kind ≠ .secret ∧ builder.Hangs parent kind edgeKind part :=
    List.forall_mem_append.mpr
      ⟨fun part inside => ⟨_, _, _, by decide, parts part inside⟩,
        fun part inside => ⟨_, _, _, by decide, store part inside⟩⟩
  refine ⟨?_, ?_, ?_, ?_, ?_⟩
  · refine List.forall_mem_cons.mpr ⟨⟨rfl, rfl⟩, List.forall_mem_cons.mpr ⟨⟨rfl, rfl⟩, ?_⟩⟩
    rw [List.forall_mem_map]
    intro part inside
    obtain ⟨_, _, _, _, hangs⟩ := every part inside
    exact hangs.nodeOwned
  · refine List.forall_mem_cons.mpr ⟨⟨rfl, rfl⟩, ?_⟩
    rw [List.forall_mem_map]
    intro part inside
    obtain ⟨_, _, _, _, hangs⟩ := every part inside
    exact hangs.edgeOwned
  · refine ⟨builder.secretNode, List.mem_cons_self, rfl, ?_,
      builder.build_rooted principal resources storeVerify distinct⟩
    refine List.forall_mem_cons.mpr ⟨fun _ => rfl, List.forall_mem_cons.mpr ⟨?_, ?_⟩⟩
    · intro same
      cases same
    · rw [List.forall_mem_map]
      intro part inside same
      obtain ⟨_, _, _, other, hangs⟩ := every part inside
      exact absurd (hangs.kind.symm.trans same) other
  · rw [build_resourceNodes]
    exact builder.resourceParts_show _ _ resources
  · refine ⟨builder.principalNode principal, List.mem_cons_of_mem _ List.mem_cons_self, rfl, ?_⟩
    rw [build_accesses, build_resourceNodes, hang_links parts, List.map_map]
    rfl

/-- A principal reaches a bucket, a role and the bucket again, and Vault holds the secret. -/
theorem build_wellFormed_bucket :
    let builder : BlastRadiusBuilder :=
      { secretId := 1, workspaceId := 2, environment := "prod", uuid4 := id }
    let resources : List ResourceRef :=
      [⟨"aws", "s3_bucket", "arn:aws:s3:::logs", "logs", "unknown"⟩,
        ⟨"aws", "iam_role", "arn:aws:iam::1:role/deploy", "deploy", "staging"⟩,
        ⟨"aws", "s3_bucket", "arn:aws:s3:::logs", "logs", "unknown"⟩]
    let built := builder.build ⟨"aws", "user", "arn:aws:iam::1:user/ci", "1"⟩ resources
      (some { success := true, metadata := [] })
    builder.WellFormed resources built.1 built.2.1 :=
  build_wellFormed _ _ _ _ Function.injective_id

end Tree

end BlastRadiusBuilder

end Sprawl
