/-
This file compares the stored graph of a secret with the graph of its last investigation.
-/

import Sprawl.Proof.FailedIngest

namespace Sprawl

section Draws

namespace BlastRadiusBuilder

variable (builder : BlastRadiusBuilder) (principal : Uuid) (drawn : Nat)

/-- The nodes of the resources take every second value from `uuid4`, and their edges the others. -/
theorem resourceParts_ids (resources : List ResourceRef) :
    (builder.resourceParts principal drawn resources).map (fun part => (part.1.id, part.2.id)) =
      (List.range' drawn resources.length 2).map
        fun index => (builder.uuid4 index, builder.uuid4 (index + 1)) := by
  induction resources generalizing drawn with
  | nil => rfl
  | cons resource rest ih =>
      rw [resourceParts, List.map_cons, ih, List.length_cons, List.range'_succ, List.map_cons]
      rfl

theorem storeParts_ids (storeVerify : Option StoreVerification) :
    (builder.storeParts drawn storeVerify).map (fun part => (part.1.id, part.2.id)) =
      (List.range' drawn storeVerify.toList.length 2).map
        fun index => (builder.uuid4 index, builder.uuid4 (index + 1)) := by
  cases storeVerify <;> rfl

/-- The positions of the draws for the resources and the store. -/
def partDraws (resources : List ResourceRef) (storeVerify : Option StoreVerification) : List Nat :=
  List.range' 3 (resources.length + storeVerify.toList.length) 2

theorem parts_ids (resources : List ResourceRef) (storeVerify : Option StoreVerification) :
    (builder.resourceParts principal 3 resources ++
      builder.storeParts (3 + 2 * resources.length) storeVerify).map
        (fun part => (part.1.id, part.2.id)) =
      (partDraws resources storeVerify).map
        fun index => (builder.uuid4 index, builder.uuid4 (index + 1)) := by
  rw [List.map_append, resourceParts_ids, storeParts_ids, ← List.map_append, partDraws,
    List.range'_append]

theorem build_node_ids (principalRef : PrincipalRef) (resources : List ResourceRef)
    (storeVerify : Option StoreVerification) :
    (builder.build principalRef resources storeVerify).1.map (·.id) =
      (0 :: 1 :: partDraws resources storeVerify).map builder.uuid4 := by
  have parts := congrArg (List.map Prod.fst)
    (builder.parts_ids (builder.principalNode principalRef).id resources storeVerify)
  rw [List.map_map, List.map_map] at parts
  rw [build, List.map_cons, List.map_cons, List.map_map]
  exact congrArg (fun ids => builder.uuid4 0 :: builder.uuid4 1 :: ids) parts

theorem build_edge_ids (principalRef : PrincipalRef) (resources : List ResourceRef)
    (storeVerify : Option StoreVerification) :
    (builder.build principalRef resources storeVerify).2.1.map (·.id) =
      (2 :: (partDraws resources storeVerify).map (· + 1)).map builder.uuid4 := by
  have parts := congrArg (List.map Prod.snd)
    (builder.parts_ids (builder.principalNode principalRef).id resources storeVerify)
  rw [List.map_map, List.map_map] at parts
  rw [build, List.map_cons, List.map_map, List.map_cons, List.map_map]
  exact congrArg (fun ids => builder.uuid4 2 :: ids) parts

/-- A position behind the first three. -/
theorem three_le_partDraws {resources : List ResourceRef} {storeVerify : Option StoreVerification}
    {index : Nat} (inside : index ∈ partDraws resources storeVerify) : 3 ≤ index := by
  obtain ⟨step, _, rfl⟩ := List.mem_range'.mp inside
  omega

theorem partDraws_nodup (resources : List ResourceRef) (storeVerify : Option StoreVerification) :
    (partDraws resources storeVerify).Nodup := List.nodup_range' 2

theorem node_draws_nodup (resources : List ResourceRef) (storeVerify : Option StoreVerification) :
    (0 :: 1 :: partDraws resources storeVerify).Nodup := by
  have parts := partDraws_nodup resources storeVerify
  have behind : ∀ index ∈ partDraws resources storeVerify, 3 ≤ index :=
    fun _ => three_le_partDraws
  refine List.nodup_cons.mpr ⟨?_, List.nodup_cons.mpr ⟨?_, parts⟩⟩
  · intro inside
    obtain same | inside := List.mem_cons.mp inside
    · cases same
    · exact absurd (behind 0 inside) (by omega)
  · intro inside
    exact absurd (behind 1 inside) (by omega)

theorem edge_draws_nodup (resources : List ResourceRef) (storeVerify : Option StoreVerification) :
    (2 :: (partDraws resources storeVerify).map (· + 1)).Nodup := by
  have parts := partDraws_nodup resources storeVerify
  refine List.nodup_cons.mpr ⟨?_, parts.map Nat.succ_injective⟩
  intro inside
  obtain ⟨index, among, same⟩ := List.mem_map.mp inside
  exact absurd (three_le_partDraws among) (by omega)

end BlastRadiusBuilder

/-- Every node of a graph takes a draw of its own, and so does every edge. -/
theorem blastRadiusGraph_draws (answers : BlastRadiusAnswers) (context : SecretContext) :
    ∃ nodeDraws edgeDraws : List Nat, nodeDraws.Nodup ∧ edgeDraws.Nodup ∧
      (blastRadiusGraph answers context).nodes.map (·.id) = nodeDraws.map answers.uuid4 ∧
      (blastRadiusGraph answers context).edges.map (·.id) = edgeDraws.map answers.uuid4 :=
  ⟨_, _, BlastRadiusBuilder.node_draws_nodup _ _, BlastRadiusBuilder.edge_draws_nodup _ _,
    BlastRadiusBuilder.build_node_ids _ _ _ _, BlastRadiusBuilder.build_edge_ids _ _ _ _⟩

end Draws

section Stored

variable [Sha256]

/-- The graph rows of a secret, which its readers select. -/
def Database.graphOf (db : Database) (secretId : Uuid) : List GraphNode × List GraphEdge :=
  (db.graphNodes.filter (·.secretId = secretId), db.graphEdges.filter (·.secretId = secretId))

/-- The rows that a job writes for a graph. -/
def InvestigationJob.graphRows (job : InvestigationJob) (graph : BlastRadiusGraph) :
    List GraphNode × List GraphEdge :=
  (graph.nodes.map job.nodeRow, graph.edges.map job.edgeRow)

/-- `uuid4` returns no value twice in a run, and none that a stored row has. -/
structure DistinctDraws (calls : NodeCalls) (db : Database) : Prop where
  injective : ∀ answers, Answered calls.blastRadius answers → Function.Injective answers.uuid4
  newNode : ∀ answers, Answered calls.blastRadius answers → ∀ drawn,
    answers.uuid4 drawn ∉ db.graphNodes.map (·.id)
  newEdge : ∀ answers, Answered calls.blastRadius answers → ∀ drawn,
    answers.uuid4 drawn ∉ db.graphEdges.map (·.id)

variable {now : Time} {db : Database}

/-- Rows under new identifiers are all inserted. -/
theorem foldl_inserts {ρ : Type} (table : Database → List ρ) {key : ρ → Uuid}
    {statement : ρ → JobStatement}
    (inserts : ∀ db row, table (Database.performed now db (statement row)) =
      if ((table db).map key).contains (key row) then table db else table db ++ [row])
    {rows : List ρ} (nodup : (rows.map key).Nodup)
    (new : ∀ id ∈ rows.map key, id ∉ (table db).map key) :
    table ((rows.map statement).foldl (Database.performed now) db) = table db ++ rows := by
  induction rows generalizing db with
  | nil => exact (List.append_nil _).symm
  | cons row rest ih =>
      rw [List.map_cons, List.nodup_cons] at nodup
      rw [List.map_cons, List.forall_mem_cons] at new
      have inserted : table (db.performed now (statement row)) = table db ++ [row] :=
        (inserts db row).trans (if_neg fun taken => new.1 (List.contains_iff_mem.mp taken))
      have later : ∀ id ∈ rest.map key,
          id ∉ (table (db.performed now (statement row))).map key := by
        intro id inside
        rw [inserted, List.map_append, List.mem_append, not_or]
        refine ⟨new.2 id inside, ?_⟩
        intro same
        rw [List.map_singleton, List.mem_singleton] at same
        exact nodup.1 (same ▸ inside)
      rw [List.map_cons, List.foldl_cons, ih nodup.2 later, inserted, List.append_assoc]
      rfl

theorem noNode_keeps {statements : List JobStatement}
    (noNode : ∀ row, JobStatement.graphNode row ∉ statements) :
    (statements.foldl (Database.performed now) db).graphNodes = db.graphNodes := by
  apply Database.foldl_performed_keeps (·.graphNodes)
  intro statement inside rows
  cases statement with
  | graphNode row => exact absurd inside (noNode row)
  | _ => rfl

theorem noEdge_keeps {statements : List JobStatement}
    (noEdge : ∀ row, JobStatement.graphEdge row ∉ statements) :
    (statements.foldl (Database.performed now) db).graphEdges = db.graphEdges := by
  apply Database.foldl_performed_keeps (·.graphEdges)
  intro statement inside rows
  cases statement with
  | graphEdge row => exact absurd inside (noEdge row)
  | _ => rfl

section Run

variable {F : Type} [Scalar F] (job : InvestigationJob)

/-- The statements of a run around those of its graph. -/
structure AroundGraph (statements : List JobStatement) : Prop where
  noNode : ∀ row, JobStatement.graphNode row ∉ statements
  noEdge : ∀ row, JobStatement.graphEdge row ∉ statements

omit [Sha256] in
theorem opening_aroundGraph (trace : Option String) :
    AroundGraph (job.openingStatements trace) := by
  constructor <;> cases trace <;> simp [InvestigationJob.openingStatements]

omit [Sha256] in
theorem ending_aroundGraph (final : InvestigationState F) (id : Uuid) :
    AroundGraph (final.severity.elim [] (job.severityStatements id) ++
      job.endingStatements final) := by
  constructor <;> cases final.severity <;>
    simp [InvestigationJob.severityStatements, InvestigationJob.endingStatements]

/-- A list of statements around those of a graph inserts the rows of the graph. -/
theorem foldl_graphRows {opening ending : List JobStatement} {graph : BlastRadiusGraph}
    (before : AroundGraph opening) (behind : AroundGraph ending)
    (nodesNodup : ((job.graphRows graph).1.map (·.id)).Nodup)
    (edgesNodup : ((job.graphRows graph).2.map (·.id)).Nodup)
    (newNodes : ∀ id ∈ (job.graphRows graph).1.map (·.id), id ∉ db.graphNodes.map (·.id))
    (newEdges : ∀ id ∈ (job.graphRows graph).2.map (·.id), id ∉ db.graphEdges.map (·.id)) :
    let rows := (opening ++ (job.graphStatements graph ++ ending)).foldl (Database.performed now) db
    rows.graphNodes = db.graphNodes ++ (job.graphRows graph).1 ∧
      rows.graphEdges = db.graphEdges ++ (job.graphRows graph).2 := by
  let nodes := (job.graphRows graph).1.map JobStatement.graphNode
  let edges := (job.graphRows graph).2.map JobStatement.graphEdge
  have parts : job.graphStatements graph = nodes ++ edges := by
    simp only [InvestigationJob.graphStatements, nodes, edges, InvestigationJob.graphRows,
      List.map_map]
    rfl
  let opened := opening.foldl (Database.performed now) db
  have sameNodes : opened.graphNodes = db.graphNodes := noNode_keeps before.noNode
  have sameEdges : opened.graphEdges = db.graphEdges := noEdge_keeps before.noEdge
  dsimp only
  rw [parts, List.foldl_append, List.foldl_append, List.foldl_append]
  constructor
  · rw [noNode_keeps behind.noNode, noNode_keeps (by simp [edges]),
      foldl_inserts (·.graphNodes) (fun _ _ => rfl) nodesNodup (sameNodes ▸ newNodes)]
    exact congrArg (· ++ _) sameNodes
  · have keptEdges : (nodes.foldl (Database.performed now) opened).graphEdges = db.graphEdges :=
      (noEdge_keeps (by simp [nodes])).trans sameEdges
    rw [noEdge_keeps behind.noEdge,
      foldl_inserts (·.graphEdges) (fun _ _ => rfl) edgesNodup (keptEdges ▸ newEdges)]
    exact congrArg (· ++ _) keptEdges

/-- A run that returns adds the rows of its graph to the stored ones. -/
theorem run_graphRows {around : JobSurroundings} {calls : NodeCalls} {graph : BlastRadiusGraph}
    {value : Json} {after : JobTransaction} {rows : Database}
    (used : usedRun around.graphRuns = some calls)
    (built : (runGraph (F := F) calls (job.initialState around.trace)).graph = some graph)
    (distinct : DistinctDraws calls db)
    (ran : (investigateSecret F job).runOn (JobTransaction.start around, db) =
      (.ok value, after, rows)) :
    rows.graphNodes = db.graphNodes ++ (job.graphRows graph).1 ∧
      rows.graphEdges = db.graphEdges ++ (job.graphRows graph).2 := by
  obtain ⟨sameCalls, sameUsed, _, applied⟩ :=
    (attempt_ok_iff job).mp ⟨value, after, (investigateSecret_ok_iff job).mp ran⟩
  obtain rfl := Option.some.inj (sameUsed.symm.trans used)
  have pipeline : (runGraph (F := F) sameCalls (job.initialState around.trace)).Built sameCalls :=
    runGraph_built rfl
  obtain ⟨answers, answered, context, rfl⟩ := pipeline graph built
  obtain ⟨nodeDraws, edgeDraws, nodeNodup, edgeNodup, nodeIds, edgeIds⟩ :=
    blastRadiusGraph_draws answers context
  have injective := distinct.injective answers answered
  have nodeKeys : (job.graphRows (blastRadiusGraph answers context)).1.map (·.id) =
      nodeDraws.map answers.uuid4 := by
    rw [← nodeIds, InvestigationJob.graphRows, List.map_map]
    rfl
  have edgeKeys : (job.graphRows (blastRadiusGraph answers context)).2.map (·.id) =
      edgeDraws.map answers.uuid4 := by
    rw [← edgeIds, InvestigationJob.graphRows, List.map_map]
    rfl
  have performed := Database.applyEach_performed applied
  change rows = (_ ++ job.persisted (runGraph (F := F) sameCalls
    (job.initialState around.trace)) _).foldl _ _ at performed
  rw [InvestigationJob.persisted, built, List.append_assoc] at performed
  rw [performed]
  apply foldl_graphRows job (opening_aroundGraph job _) (ending_aroundGraph job _ _)
  · rw [nodeKeys]
    exact nodeNodup.map injective
  · rw [edgeKeys]
    exact edgeNodup.map injective
  · rw [nodeKeys, List.forall_mem_map]
    exact fun drawn _ => distinct.newNode answers answered drawn
  · rw [edgeKeys, List.forall_mem_map]
    exact fun drawn _ => distinct.newEdge answers answered drawn

end Run

end Stored

section Sequence

variable [Sha256] {F : Type} [Scalar F]

/-- The investigations of a secret that returned with a graph, one after another, with the graphs
that they built. Between two of them other rows may change. -/
inductive Reinvestigated (F : Type) [Scalar F] (secretId : Uuid) (db : Database) :
    List (InvestigationJob × BlastRadiusGraph) → Database → Prop
  | start : Reinvestigated F secretId db [] db
  | between {rows other : Database} {runs : List (InvestigationJob × BlastRadiusGraph)}
      (before : Reinvestigated F secretId db runs rows)
      (same : other.graphOf secretId = rows.graphOf secretId) :
      Reinvestigated F secretId db runs other
  | run {rows next : Database} {runs : List (InvestigationJob × BlastRadiusGraph)}
      {job : InvestigationJob} {around : JobSurroundings} {calls : NodeCalls}
      {graph : BlastRadiusGraph} {value : Json} {after : JobTransaction}
      (before : Reinvestigated F secretId db runs rows) (ofSecret : job.secretId = secretId)
      (used : usedRun around.graphRuns = some calls)
      (built : (runGraph (F := F) calls (job.initialState around.trace)).graph = some graph)
      (distinct : DistinctDraws calls rows)
      (ran : (investigateSecret F job).runOn (JobTransaction.start around, rows) =
        (.ok value, after, next)) :
      Reinvestigated F secretId db (runs ++ [(job, graph)]) next

/-- A node row under another identifier. -/
def GraphNode.renamed (rename : Uuid → Uuid) (row : GraphNode) : GraphNode :=
  { row with id := rename row.id }

def GraphEdge.renamed (rename : Uuid → Uuid) (row : GraphEdge) : GraphEdge :=
  { row with
    id := rename row.id, srcNodeId := rename row.srcNodeId, dstNodeId := rename row.dstNodeId }

/-- The stored rows are the built ones, in some order and under other identifiers. -/
def SameUpToIds (stored built : List GraphNode × List GraphEdge) : Prop :=
  ∃ rename : Uuid → Uuid, Function.Injective rename ∧
    (stored.1.map (GraphNode.renamed rename)).Perm built.1 ∧
    (stored.2.map (GraphEdge.renamed rename)).Perm built.2

omit [Sha256] in
theorem sameUpToIds_refl (rows : List GraphNode × List GraphEdge) : SameUpToIds rows rows :=
  ⟨id, Function.injective_id, by rw [show GraphNode.renamed id = id from rfl, List.map_id],
    by rw [show GraphEdge.renamed id = id from rfl, List.map_id]⟩

/-- The rows of all runs, in turn. -/
def allRows (runs : List (InvestigationJob × BlastRadiusGraph)) :
    List GraphNode × List GraphEdge :=
  (runs.flatMap fun run => (run.1.graphRows run.2).1,
    runs.flatMap fun run => (run.1.graphRows run.2).2)

omit [Sha256] in
theorem allRows_append (runs : List (InvestigationJob × BlastRadiusGraph))
    (last : InvestigationJob × BlastRadiusGraph) :
    allRows (runs ++ [last]) =
      ((allRows runs).1 ++ (last.1.graphRows last.2).1,
        (allRows runs).2 ++ (last.1.graphRows last.2).2) := by
  simp only [allRows, List.flatMap_append, List.flatMap_singleton]

variable {secretId : Uuid} {db rows : Database}
  {runs earlier : List (InvestigationJob × BlastRadiusGraph)}
  {last : InvestigationJob × BlastRadiusGraph}

omit [Sha256] in
/-- A graph has at least the node of its secret. -/
theorem built_nodes {calls : NodeCalls} {state : InvestigationState F} {graph : BlastRadiusGraph}
    (noGraph : state.graph = none) (built : (runGraph calls state).graph = some graph) :
    graph.nodes ≠ [] := by
  obtain ⟨answers, _, context, rfl⟩ := runGraph_built noGraph graph built
  exact List.cons_ne_nil _ _

omit [Sha256] in
theorem graphRows_ofSecret {job : InvestigationJob} (graph : BlastRadiusGraph)
    (ofSecret : job.secretId = secretId) :
    (job.graphRows graph).1.filter (·.secretId = secretId) = (job.graphRows graph).1 ∧
      (job.graphRows graph).2.filter (·.secretId = secretId) = (job.graphRows graph).2 := by
  constructor
  · rw [List.filter_eq_self, InvestigationJob.graphRows, List.forall_mem_map]
    exact fun _ _ => decide_eq_true ofSecret
  · rw [List.filter_eq_self, InvestigationJob.graphRows, List.forall_mem_map]
    exact fun _ _ => decide_eq_true ofSecret

/-- The graph rows of a secret are the ones from before and those of all its investigations. -/
theorem reinvestigated_graphOf (reached : Reinvestigated F secretId db runs rows) :
    rows.graphOf secretId =
      ((db.graphOf secretId).1 ++ (allRows runs).1, (db.graphOf secretId).2 ++ (allRows runs).2) := by
  induction reached with
  | start => exact Prod.ext (List.append_nil _).symm (List.append_nil _).symm
  | between before same ih => exact same.trans ih
  | @run rows next runs job around calls graph value after before ofSecret used built distinct ran
      ih =>
      obtain ⟨nodes, edges⟩ := run_graphRows job used built distinct ran
      obtain ⟨allNodes, allEdges⟩ := graphRows_ofSecret graph ofSecret
      obtain ⟨nodesBefore, edgesBefore⟩ := Prod.ext_iff.mp ih
      rw [Database.graphOf, nodes, edges, List.filter_append, List.filter_append, allNodes, allEdges]
      rw [allRows_append, ← List.append_assoc, ← List.append_assoc]
      exact Prod.ext (congrArg (· ++ _) nodesBefore) (congrArg (· ++ _) edgesBefore)

theorem reinvestigated_nodes (reached : Reinvestigated F secretId db runs rows) :
    ∀ run ∈ runs, (run.1.graphRows run.2).1 ≠ [] := by
  induction reached with
  | start => exact fun _ inside => absurd inside List.not_mem_nil
  | between before same ih => exact ih
  | run before ofSecret used built distinct ran ih =>
      rw [List.forall_mem_append, List.forall_mem_singleton]
      refine ⟨ih, ?_⟩
      rw [InvestigationJob.graphRows, ne_eq, List.map_eq_nil_iff]
      exact built_nodes rfl built

/-- The stored graph of a secret is the one of its last investigation exactly if that was the only
one, and no rows were there before. -/
theorem reinvestigated_refreshed_iff
    (reached : Reinvestigated F secretId db (earlier ++ [last]) rows) :
    SameUpToIds (rows.graphOf secretId) (last.1.graphRows last.2) ↔
      db.graphOf secretId = ([], []) ∧ earlier = [] := by
  have stored := reinvestigated_graphOf reached
  have built := reinvestigated_nodes reached
  rw [allRows_append, ← List.append_assoc, ← List.append_assoc] at stored
  constructor
  · intro given
    obtain ⟨rename, _, nodes, edges⟩ := given
    have nodeCount := nodes.length_eq
    have edgeCount := edges.length_eq
    rw [List.length_map, stored] at nodeCount edgeCount
    simp only [List.length_append] at nodeCount edgeCount
    have noEdges : (db.graphOf secretId).2 = [] := List.length_eq_zero_iff.mp (by omega)
    have noNodes : (db.graphOf secretId).1 = [] := List.length_eq_zero_iff.mp (by omega)
    refine ⟨Prod.ext noNodes noEdges, ?_⟩
    have noEarlier : (allRows earlier).1 = [] := List.length_eq_zero_iff.mp (by omega)
    rw [allRows, List.flatMap_eq_nil_iff] at noEarlier
    rw [List.eq_nil_iff_forall_not_mem]
    intro run inside
    exact built run (List.mem_append_left _ inside) (noEarlier run inside)
  · intro given
    obtain ⟨noRows, rfl⟩ := given
    rw [stored, noRows]
    exact sameUpToIds_refl _

end Sequence

section Example

/-- All nodes are answered, and nothing is known but the secret itself. The draws of `uuid4` start
at a base. -/
def plainCalls (base : Nat) : NodeCalls where
  ingest _ := .answered {
    secret := some {
      type := "api_key", provider := none, health := .unknown, environment := .prod
      exposureStatus := .publicLeak }
    findings := [], connectors := [], references := none }
  triage _ := .answered ()
  investigator _ := .answered
    { githubAvailable := false, fileContent := fun _ => none, storeReadable := false, lastUsed := none }
  blastRadius _ := .answered { resources := none, storeVerify := none, uuid4 := (base + ·) }
  severity _ := .answered { explanation := none }

def plainAround (base : Nat) : JobSurroundings where
  failures := []
  violation _ := ""
  trace := none
  graphRuns := [.ok (plainCalls base)]
  uuids := [base]

/-- The second investigation of the critical secret. -/
def secondJob : InvestigationJob := { criticalJob with investigationId := 4 }

/-- The rows and the result after a plain run. -/
def plainRun (job : InvestigationJob) (base : Nat) (db : Database) :
    Except String Json × JobTransaction × Database :=
  @JobHandler.runOn plainDigest Json (@investigateSecret Rat exactScalar job)
    (JobTransaction.start (plainAround base), db)

def onceInvestigated : Database := (plainRun criticalJob 100 criticalSecret).2.2

/-- A second investigation is triggered when the first one is complete. -/
def retriggered : Database :=
  { onceInvestigated with
    investigations := onceInvestigated.investigations ++
      [{ id := 4, workspaceId := 2, secretId := 1, status := .running, traceId := none
         coverage := none, startedAt := 0, finishedAt := none }] }

def twiceInvestigated : Database := (plainRun secondJob 200 retriggered).2.2

/-- The graph of a plain run. -/
def plainGraph (job : InvestigationJob) (base : Nat) : BlastRadiusGraph :=
  ((@runGraph Rat exactScalar (plainCalls base) (job.initialState none)).graph).getD
    { nodes := [], edges := [], coverage := none, resourceCount := 0, highPrivCount := 0 }

theorem plain_distinct {base : Nat} {db : Database}
    (nodes : ∀ id ∈ db.graphNodes.map (·.id), id < base)
    (edges : ∀ id ∈ db.graphEdges.map (·.id), id < base) : DistinctDraws (plainCalls base) db := by
  have only : ∀ answers, Answered (plainCalls base).blastRadius answers →
      answers.uuid4 = (base + ·) := by
    intro answers answered
    obtain ⟨_, same⟩ := answered
    cases same
    rfl
  refine ⟨?_, ?_, ?_⟩
  · intro answers answered
    rw [only answers answered]
    exact fun _ _ same => Nat.add_left_cancel same
  · intro answers answered drawn inside
    rw [only answers answered] at inside
    exact absurd (nodes _ inside) (Nat.not_lt.mpr (Nat.le_add_right base drawn))
  · intro answers answered drawn inside
    rw [only answers answered] at inside
    exact absurd (edges _ inside) (Nat.not_lt.mpr (Nat.le_add_right base drawn))

theorem plainRun_returned (job : InvestigationJob) (base : Nat) (db : Database)
    (returns : (plainRun job base db).1.isOk = true) : ∃ value,
    plainRun job base db = (.ok value, (plainRun job base db).2.1, (plainRun job base db).2.2) := by
  rcases ran : plainRun job base db with ⟨raised | value, after⟩
  · rw [ran] at returns
    cases returns
  · exact ⟨value, rfl⟩

/-- Two investigations of the critical secret return, one after the other. -/
theorem twice_reinvestigated :
    @Reinvestigated plainDigest Rat exactScalar 1 criticalSecret
      ([(criticalJob, plainGraph criticalJob 100)] ++ [(secondJob, plainGraph secondJob 200)])
      twiceInvestigated := by
  let _ := plainDigest
  let _ := exactScalar
  obtain ⟨_, first⟩ := plainRun_returned criticalJob 100 criticalSecret (by decide)
  obtain ⟨_, second⟩ := plainRun_returned secondJob 200 retriggered (by decide)
  have once : Reinvestigated Rat 1 criticalSecret ([] ++ [(criticalJob, plainGraph criticalJob 100)])
      onceInvestigated :=
    .run .start rfl rfl rfl (plain_distinct (by decide) (by decide)) first
  have triggered : Reinvestigated Rat 1 criticalSecret [(criticalJob, plainGraph criticalJob 100)]
      retriggered :=
    .between once rfl
  exact .run triggered rfl rfl rfl (plain_distinct (by decide) (by decide)) second

/-- A repeated investigation leaves twice as many nodes as its graph has. -/
theorem twice_not_refreshed :
    @Reinvestigated plainDigest Rat exactScalar 1 criticalSecret
      ([(criticalJob, plainGraph criticalJob 100)] ++ [(secondJob, plainGraph secondJob 200)])
      twiceInvestigated ∧
    criticalSecret.graphOf 1 = ([], []) ∧
    (twiceInvestigated.graphOf 1).1.length = 4 ∧
    (secondJob.graphRows (plainGraph secondJob 200)).1.length = 2 ∧
    ¬ SameUpToIds (twiceInvestigated.graphOf 1)
      (secondJob.graphRows (plainGraph secondJob 200)) := by
  have stored : (twiceInvestigated.graphOf 1).1.length = 4 := by decide
  have built : (secondJob.graphRows (plainGraph secondJob 200)).1.length = 2 := by decide
  refine ⟨twice_reinvestigated, rfl, stored, built, ?_⟩
  intro same
  obtain ⟨_, _, nodes, _⟩ := same
  have count := nodes.length_eq
  rw [List.length_map, stored, built] at count
  cases count

/-- The graph after the two investigations is not the one of the second, because of the first. -/
theorem twice_refreshed_iff :
    SameUpToIds (twiceInvestigated.graphOf 1) (secondJob.graphRows (plainGraph secondJob 200)) ↔
      criticalSecret.graphOf 1 = ([], []) ∧
        [(criticalJob, plainGraph criticalJob 100)] = ([] : List _) :=
  @reinvestigated_refreshed_iff plainDigest Rat exactScalar _ _ _ _ _ twice_reinvestigated

end Example

end Sprawl
