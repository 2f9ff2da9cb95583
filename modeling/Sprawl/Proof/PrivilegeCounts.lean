/-
This file proves when the privileges that the graph shows are those that the severity counts.
-/

import Sprawl.Investigation.Nodes

namespace Sprawl

/-- The node shows a resource of high privilege. -/
def GraphNodeData.marksHighPriv (node : GraphNodeData) : Bool :=
  node.kind = .resource &&
    match node.attrs.lookup "high_privilege" with
    | some (.bool marked) => marked
    | _ => false

/-- The edge is an access of high confidence. -/
def GraphEdgeData.grantsHigh (edge : GraphEdgeData) : Bool :=
  edge.kind = .grantsAccessTo && edge.confidence = .high

/-- The count of the graph is that of its marked nodes and that of its edges of high confidence. -/
def BlastRadiusGraph.PrivilegesAgree (graph : BlastRadiusGraph) : Prop :=
  graph.highPrivCount = graph.nodes.countP GraphNodeData.marksHighPriv ∧
    graph.highPrivCount = graph.edges.countP GraphEdgeData.grantsHigh

section Builder

variable (builder : BlastRadiusBuilder)

theorem marksHighPriv_resourceNode (drawn : Nat) (resource : ResourceRef) :
    (builder.resourceNode drawn resource).marksHighPriv = resource.isHighPriv := rfl

theorem grantsHigh_resourceEdge (drawn : Nat) (src dst : Uuid) (high : Bool) :
    (builder.makeEdge drawn src dst .grantsAccessTo (if high then .high else .medium)).grantsHigh =
      high := by
  cases high <;> rfl

/-- Each resource of high privilege has one marked node and one edge of high confidence. -/
theorem countP_resourceParts (principal : Uuid) (drawn : Nat) (resources : List ResourceRef) :
    ((builder.resourceParts principal drawn resources).map (·.1)).countP
        GraphNodeData.marksHighPriv = resources.countP ResourceRef.isHighPriv ∧
      ((builder.resourceParts principal drawn resources).map (·.2)).countP
        GraphEdgeData.grantsHigh = resources.countP ResourceRef.isHighPriv := by
  induction resources generalizing drawn with
  | nil => exact ⟨rfl, rfl⟩
  | cons resource rest ih =>
      obtain ⟨nodes, edges⟩ := ih (drawn + 2)
      rw [BlastRadiusBuilder.resourceParts, List.map_cons, List.map_cons, List.countP_cons,
        List.countP_cons, List.countP_cons, nodes, edges]
      rw [marksHighPriv_resourceNode, grantsHigh_resourceEdge]
      exact ⟨rfl, rfl⟩

/-- A store adds no privileges. -/
theorem countP_storeParts (drawn : Nat) (storeVerify : Option StoreVerification) :
    ((builder.storeParts drawn storeVerify).map (·.1)).countP GraphNodeData.marksHighPriv = 0 ∧
      ((builder.storeParts drawn storeVerify).map (·.2)).countP GraphEdgeData.grantsHigh = 0 := by
  cases storeVerify with
  | none => exact ⟨rfl, rfl⟩
  | some verified =>
      refine ⟨rfl, ?_⟩
      cases verified.success <;> rfl

/-- The graph marks as many nodes and edges as its list has resources of high privilege. -/
theorem build_privileges (principal : PrincipalRef) (resources : List ResourceRef)
    (storeVerify : Option StoreVerification) :
    (builder.build principal resources storeVerify).1.countP GraphNodeData.marksHighPriv =
        resources.countP ResourceRef.isHighPriv ∧
      (builder.build principal resources storeVerify).2.1.countP GraphEdgeData.grantsHigh =
        resources.countP ResourceRef.isHighPriv := by
  obtain ⟨nodes, edges⟩ := countP_resourceParts builder (builder.principalNode principal).id 3
    resources
  obtain ⟨storeNodes, storeEdges⟩ := countP_storeParts builder (3 + 2 * resources.length)
    storeVerify
  constructor
  · change List.countP _ (_ :: _ :: _) = _
    rw [List.countP_cons_of_neg Bool.false_ne_true, List.countP_cons_of_neg Bool.false_ne_true,
      List.map_append, List.countP_append, nodes, storeNodes, Nat.add_zero]
  · change List.countP _ (_ :: _) = _
    rw [List.countP_cons_of_neg Bool.false_ne_true, List.map_append, List.countP_append, edges,
      storeEdges, Nat.add_zero]

end Builder

section Count

/-- A count by a weaker test is the same exactly if the tests agree on the list. -/
theorem countP_eq_countP_iff {α : Type} {weaker stronger : α → Bool} {items : List α}
    (implied : ∀ item, stronger item = true → weaker item = true) :
    items.countP weaker = items.countP stronger ↔
      ∀ item ∈ items, weaker item = true → stronger item = true := by
  induction items with
  | nil => simp
  | cons item rest ih =>
      have less : rest.countP stronger ≤ rest.countP weaker :=
        List.countP_mono_left fun other _ => implied other
      rw [List.countP_cons, List.countP_cons, List.forall_mem_cons, ← ih]
      by_cases strong : stronger item = true
      · rw [if_pos strong, if_pos (implied item strong)]
        simp [strong]
      · by_cases weak : weaker item = true
        · rw [if_neg strong, if_pos weak]
          constructor
          · intro same
            omega
          · exact fun given => absurd (given.1 weak) strong
        · rw [if_neg strong, if_neg weak]
          simp [weak]

/-- The two tables differ in one type. -/
theorem counted_iff (resourceType : String) :
    highPrivTypes.contains resourceType = true ↔
      highPrivServices.contains resourceType = true ∨ resourceType = "ec2" := by
  simp only [highPrivTypes, highPrivServices, List.contains_cons, List.contains_nil, Bool.or_eq_true,
    beq_iff_eq, Bool.or_false]
  tauto

end Count

/-- The resources of a graph. Without a principal there are none. -/
def reachedResources (answers : BlastRadiusAnswers) (context : SecretContext) : List ResourceRef :=
  if truthy context.principalArn then answers.resources.getD [] else []

/-- The counted privileges are the displayed ones exactly if no EC2 resource is reached. -/
theorem privilegesAgree_iff (answers : BlastRadiusAnswers) (context : SecretContext) :
    (blastRadiusGraph answers context).PrivilegesAgree ↔
      ∀ resource ∈ reachedResources answers context, lowerText resource.resourceType ≠ "ec2" := by
  obtain ⟨nodes, edges⟩ := build_privileges
    { secretId := context.secretId, workspaceId := context.workspaceId
      environment := context.environment, uuid4 := answers.uuid4 }
    (if truthy context.principalArn then context.principal else context.unknownPrincipal)
    (reachedResources answers context)
    (if truthy context.storePath then answers.storeVerify else none)
  have counted : (blastRadiusGraph answers context).highPrivCount =
      (reachedResources answers context).countP fun resource =>
        highPrivTypes.contains (lowerText resource.resourceType) :=
    List.countP_eq_length_filter.symm
  have implied : ∀ resource : ResourceRef, resource.isHighPriv = true →
      highPrivTypes.contains (lowerText resource.resourceType) = true :=
    fun resource high => (counted_iff _).mpr (Or.inl high)
  have agree : (blastRadiusGraph answers context).PrivilegesAgree ↔
      (blastRadiusGraph answers context).highPrivCount =
        (reachedResources answers context).countP ResourceRef.isHighPriv := by
    rw [BlastRadiusGraph.PrivilegesAgree]
    change _ = List.countP _ (BlastRadiusBuilder.build _ _ (reachedResources answers context) _).1 ∧
      _ = List.countP _ (BlastRadiusBuilder.build _ _ (reachedResources answers context) _).2.1 ↔ _
    rw [nodes, edges, and_self]
  rw [agree, counted, countP_eq_countP_iff implied]
  apply forall₂_congr
  intro resource inside
  rw [counted_iff]
  constructor
  · intro kept same
    have high : highPrivServices.contains (lowerText resource.resourceType) = true :=
      kept (Or.inr same)
    rw [same] at high
    exact absurd high (by decide)
  · intro other given
    exact given.resolve_right other

section Example

/-- One EC2 instance is reached. -/
def instanceAnswers : BlastRadiusAnswers where
  resources := some [{
    provider := "aws"
    resourceType := "ec2"
    arn := "arn:aws:ec2:us-east-1:123456789012:instance/i-1"
    label := "EC2 Resource: i-1" }]
  storeVerify := none
  uuid4 := id

/-- The secret is a key of one user. -/
def userKey : SecretContext where
  secretId := 1
  workspaceId := 2
  investigationId := 3
  principalArn := some "arn:aws:iam::123456789012:user/alice"

/-- The instance counts as a high privilege, and no node shows it. -/
theorem instance_disagrees : ¬ (blastRadiusGraph instanceAnswers userKey).PrivilegesAgree := by
  intro agree
  exact absurd agree.1 (by decide)

end Example

end Sprawl
