/-
This file proves which graph nodes keep their environment when a job stores them.
-/

import Sprawl.Proof.PrivilegeCounts
import Sprawl.Proof.Refresh

namespace Sprawl

/-- The database value that an environment text stands for. -/
def databaseEnvironment (env : String) : Environment :=
  ([("prod", .prod), ("production", .prod), ("staging", .staging), ("stg", .staging), ("dev", .dev),
    ("development", .dev)].lookup (lowerText env)).getD .unknown

/-- The map of the job misses the two texts `prod` and `stg`. -/
theorem canonicalEnv_eq_iff (env : String) :
    canonicalEnv env = databaseEnvironment env ↔
      lowerText env ≠ "prod" ∧ lowerText env ≠ "stg" := by
  rw [canonicalEnv, databaseEnvironment, envCanonical]
  generalize lowerText env = text
  simp only [List.lookup_cons, List.lookup_nil]
  by_cases prod : text = "prod"
  · subst prod
    decide
  · by_cases stg : text = "stg"
    · subst stg
      decide
    · have noProd : (text == "prod") = false := beq_false_of_ne prod
      have noStg : (text == "stg") = false := beq_false_of_ne stg
      rw [noProd, noStg]
      exact iff_of_true rfl ⟨prod, stg⟩

/-- The environment text of a resource is not one of the two. An explicit one is taken as it is. -/
def ResourceRef.EnvironmentKept (resource : ResourceRef) : Prop :=
  if resource.environment ≠ "" ∧ resource.environment ≠ "unknown" then
    lowerText resource.environment ≠ "prod" ∧ lowerText resource.environment ≠ "stg"
  else
    occursIn "prod" (lowerText resource.arn) = false ∧
      (occursIn "stg" (lowerText resource.arn) = true →
        occursIn "staging" (lowerText resource.arn) = true)

/-- The inferred environment is the first pattern that occurs in the ARN. -/
theorem inferEnv_kept_iff (resource : ResourceRef) :
    canonicalEnv (inferEnv resource) = databaseEnvironment (inferEnv resource) ↔
      resource.EnvironmentKept := by
  rw [canonicalEnv_eq_iff, inferEnv, ResourceRef.EnvironmentKept]
  split
  · exact Iff.rfl
  · simp only [List.find?_cons, List.find?_nil]
    generalize occursIn "prod" (lowerText resource.arn) = prod
    generalize occursIn "staging" (lowerText resource.arn) = staging
    generalize occursIn "stg" (lowerText resource.arn) = stg
    generalize occursIn "dev" (lowerText resource.arn) = dev
    generalize occursIn "test" (lowerText resource.arn) = test
    revert prod staging stg dev test
    decide

section Built

variable {answers : BlastRadiusAnswers} {context : SecretContext}

theorem resourceParts_environments (builder : BlastRadiusBuilder) (principal : Uuid) (drawn : Nat)
    (resources : List ResourceRef) :
    (builder.resourceParts principal drawn resources).map (·.1.environment) =
      resources.map inferEnv := by
  induction resources generalizing drawn with
  | nil => rfl
  | cons resource rest ih =>
      rw [BlastRadiusBuilder.resourceParts, List.map_cons, ih, List.map_cons]
      rfl

/-- A resource has its own environment, and every other node that of the secret. -/
theorem blastRadiusGraph_environments (environment : String) :
    environment ∈ (blastRadiusGraph answers context).nodes.map (·.environment) ↔
      environment = context.environment ∨
        environment ∈ (reachedResources answers context).map inferEnv := by
  have store : ∀ (builder : BlastRadiusBuilder) drawn storeVerify,
      environment ∈ (builder.storeParts drawn storeVerify).map (·.1.environment) →
        environment = builder.environment := by
    intro builder drawn storeVerify inside
    cases storeVerify with
    | none => exact absurd inside List.not_mem_nil
    | some verified => exact List.mem_singleton.mp inside
  change environment ∈ List.map _ (_ :: _ :: List.map _ (_ ++ _)) ↔ _
  rw [List.map_cons, List.map_cons, List.map_map, List.map_append, List.mem_cons, List.mem_cons,
    List.mem_append]
  rw [← resourceParts_environments _ _ 3]
  constructor
  · rintro (same | same | inside | inside)
    · exact Or.inl same
    · exact Or.inl same
    · exact Or.inr inside
    · exact Or.inl (store _ _ _ inside)
  · rintro (same | inside)
    · exact Or.inl same
    · exact Or.inr (Or.inr (Or.inl inside))

end Built

section Run

/-- The graph is that of a secret in an environment whose principal reaches the resources, as the
calls of the nodes found them. -/
structure BlastRadiusGraph.BuiltFor (graph : BlastRadiusGraph) (calls : NodeCalls)
    (environment : Environment) (resources : List ResourceRef) : Prop where
  ingested : ∃ answers secret, Answered calls.ingest answers ∧ answers.secret = some secret ∧
    secret.environment = environment
  built : ∃ answers context, Answered calls.blastRadius answers ∧
    context.environment = environment.value ∧ reachedResources answers context = resources ∧
    graph = blastRadiusGraph answers context

theorem withConnector_environment (context : IngestContext) (row : ConnectorRow) :
    (context.withConnector row).environment = context.environment := by
  simp only [IngestContext.withConnector]
  split_ifs <;> rfl

theorem withReferences_environment (context : IngestContext)
    (references : Option Document × Option Document) :
    (context.withReferences references).environment = context.environment := by
  simp only [IngestContext.withReferences]
  split_ifs <;> rfl

theorem connected_environment (rows : List ConnectorRow) (context : IngestContext) :
    (rows.foldl IngestContext.withConnector context).environment = context.environment := by
  induction rows generalizing context with
  | nil => rfl
  | cons row rest ih => exact (ih _).trans (withConnector_environment context row)

/-- Ingest takes the environment of the secret that it finds. -/
theorem ingestContext_environment {F : Type} {answers : IngestAnswers}
    {state : InvestigationState F} {context : IngestContext}
    (built : ingestContext answers state = some context) :
    ∃ secret, answers.secret = some secret ∧ context.environment = secret.environment.value := by
  obtain ⟨secret, found, rfl⟩ := Option.map_eq_some_iff.mp built
  refine ⟨secret, found, ?_⟩
  cases answers.references with
  | none => exact connected_environment _ _
  | some references =>
      exact (withReferences_environment _ _).trans (connected_environment _ _)

variable {F : Type} [Scalar F] {calls : NodeCalls}

/-- A context in the state has the environment of the secret, and so has a graph. -/
structure InvestigationState.Placed (calls : NodeCalls) (state : InvestigationState F) : Prop where
  context : ∀ context ∈ state.context, ∃ answers secret, Answered calls.ingest answers ∧
    answers.secret = some secret ∧ context.environment = secret.environment.value
  graph : ∀ graph ∈ state.graph, ∃ environment resources,
    graph.BuiltFor calls environment resources

omit [Scalar F] in
theorem ingestNode_placed {state : InvestigationState F} (before : state.Placed calls) :
    (ingestNode calls state).Placed calls := by
  apply guardrail_keeps (InvestigationState.Placed calls)
  · intro answers next answered computed
    rw [ingestBody] at computed
    split at computed <;> cases computed
    rename_i ingested built
    obtain ⟨secret, found, environment⟩ := ingestContext_environment built
    refine ⟨fun context same => ⟨answers, secret, answered, found, ?_⟩, before.graph⟩
    obtain rfl := Option.some.inj same
    exact environment
  · exact fun _ _ _ => ⟨before.context, before.graph⟩

theorem placed_invariant : PipelineInvariant calls (InvestigationState.Placed (F := F) calls) where
  error _ _ _ _ before := ⟨before.context, before.graph⟩
  triage answers state next before computed := by
    rw [triageBody] at computed
    split at computed <;> cases computed <;> exact ⟨before.context, before.graph⟩
  investigator answers state next before _ computed := by
    rw [investigatorBody] at computed
    split at computed <;> cases computed
    · exact before
    · rename_i context known
      refine ⟨fun enriched same => ?_, before.graph⟩
      obtain rfl := Option.some.inj same
      exact before.context context known
  blastRadius answers state next before answered computed := by
    rw [blastRadiusBody] at computed
    split at computed <;> cases computed
    · exact before
    · rename_i context known
      refine ⟨before.context, fun graph drawn => ?_⟩
      obtain ⟨ingested, secret, asked, found, same⟩ := before.context context known
      exact ⟨secret.environment, _, ⟨ingested, secret, asked, found, rfl⟩,
        ⟨answers, context, answered, same, rfl, (Option.some.inj drawn).symm⟩⟩
  severity answers state next before _ computed := by
    rw [severityBody] at computed
    split at computed <;> cases computed <;> exact ⟨before.context, before.graph⟩

/-- Every graph of a run is that of the secret that ingest read. -/
theorem runGraph_builtFor {state : InvestigationState F} {graph : BlastRadiusGraph}
    (noContext : state.context = none) (noGraph : state.graph = none)
    (built : (runGraph calls state).graph = some graph) :
    ∃ environment resources, graph.BuiltFor calls environment resources := by
  have invariant : PipelineInvariant calls (InvestigationState.Placed (F := F) calls) :=
    placed_invariant
  have placed : InvestigationState.Placed calls state → ∃ environment resources,
      graph.BuiltFor calls environment resources :=
    fun start => (invariant.runGraph (ingestNode_placed start)).graph graph built
  refine placed ⟨?_, ?_⟩
  · rw [noContext]
    exact fun _ known => nomatch known
  · rw [noGraph]
    exact fun _ known => nomatch known

variable [Sha256]

/-- The rows under the nodes of the graph, with the database value of the environment that the
builder gave each of them. -/
def EnvironmentsStored (db rows : Database) (graph : BlastRadiusGraph) : Prop :=
  ∃ stored, rows.graphNodes = db.graphNodes ++ stored ∧
    List.Forall₂ (fun node row => row.id = node.id ∧
      row.environment = databaseEnvironment node.environment) graph.nodes stored

omit [Sha256] in
theorem nodeRows_stored_iff (job : InvestigationJob) (nodes : List GraphNodeData) :
    List.Forall₂ (fun node row => row.id = node.id ∧
        row.environment = databaseEnvironment node.environment) nodes (nodes.map job.nodeRow) ↔
      ∀ environment ∈ nodes.map (·.environment),
        canonicalEnv environment = databaseEnvironment environment := by
  rw [List.forall₂_map_right_iff, List.forall₂_same, List.forall_mem_map]
  exact forall₂_congr fun node _ => and_iff_right rfl

omit [Sha256] in
theorem builtFor_environments {graph : BlastRadiusGraph} {environment : Environment}
    {resources : List ResourceRef} (of : graph.BuiltFor calls environment resources) :
    (∀ text ∈ graph.nodes.map (·.environment), canonicalEnv text = databaseEnvironment text) ↔
      environment ≠ .prod ∧ ∀ resource ∈ resources, resource.EnvironmentKept := by
  obtain ⟨answers, context, _, secret, rfl, rfl⟩ := of.built
  have kept : canonicalEnv environment.value = databaseEnvironment environment.value ↔
      environment ≠ .prod := by
    cases environment <;> decide
  simp only [blastRadiusGraph_environments, or_imp, forall_and, forall_eq, List.forall_mem_map,
    inferEnv_kept_iff, secret, kept]

/-- A run builds its graph for some secret and the resources that its principal reaches. It stores
the environments of the graph exactly if the secret is not in production and no resource is given
the text `prod` or `stg`. -/
theorem run_environmentsStored_iff {job : InvestigationJob} {around : JobSurroundings}
    {db rows : Database} {graph : BlastRadiusGraph} {value : Json} {after : JobTransaction}
    (used : usedRun around.graphRuns = some calls)
    (built : (runGraph (F := F) calls (job.initialState around.trace)).graph = some graph)
    (distinct : DistinctDraws calls db)
    (ran : (investigateSecret F job).runOn (JobTransaction.start around, db) =
      (.ok value, after, rows)) :
    (∃ environment resources, graph.BuiltFor calls environment resources) ∧
      ∀ environment resources, graph.BuiltFor calls environment resources →
        (EnvironmentsStored db rows graph ↔
          environment ≠ .prod ∧ ∀ resource ∈ resources, resource.EnvironmentKept) := by
  refine ⟨runGraph_builtFor rfl rfl built, fun environment resources of => ?_⟩
  obtain ⟨nodes, _⟩ := run_graphRows job used built distinct ran
  have rowsOf : (job.graphRows graph).1 = graph.nodes.map job.nodeRow := rfl
  rw [← builtFor_environments of, ← nodeRows_stored_iff job, EnvironmentsStored, nodes, rowsOf]
  constructor
  · intro given
    obtain ⟨stored, same, matched⟩ := given
    rw [List.append_cancel_left same]
    exact matched
  · exact fun matched => ⟨_, rfl, matched⟩

end Run

section Example

/-- A bucket and a role that the key of a deployment reaches. -/
def reachedPair : List ResourceRef :=
  [⟨"aws", "s3_bucket", "arn:aws:s3:::logs-staging", "logs", "unknown"⟩,
    ⟨"aws", "iam_role", "arn:aws:iam::1:role/deploy", "deploy", "dev"⟩]

/-- The calls of a run on a secret in development whose principal reaches both. -/
def reachingCalls : NodeCalls :=
  { plainCalls 100 with
    ingest := fun _ => .answered {
      secret := some {
        type := "aws_iam_key", provider := some "aws", health := .unknown, environment := .dev
        exposureStatus := .unknown }
      findings := [], connectors := []
      references := some (some [("arn", .str "arn:aws:iam::1:user/ci")], none) }
    blastRadius := fun _ =>
      .answered { resources := some reachedPair, storeVerify := none, uuid4 := (100 + ·) } }

def reachingRun : Except String Json × JobTransaction × Database :=
  @JobHandler.runOn plainDigest Json (@investigateSecret Rat exactScalar criticalJob)
    (JobTransaction.start { plainAround 100 with graphRuns := [.ok reachingCalls] }, criticalSecret)

def reachingGraph : BlastRadiusGraph :=
  ((@runGraph Rat exactScalar reachingCalls (criticalJob.initialState none)).graph).getD
    { nodes := [], edges := [], coverage := none, resourceCount := 0, highPrivCount := 0 }

theorem reachingGraph_builtFor : reachingGraph.BuiltFor reachingCalls .dev reachedPair where
  ingested := ⟨_, _, ⟨0, rfl⟩, rfl, rfl⟩
  built := ⟨_,
    { secretId := 1, workspaceId := 2, investigationId := 3, environment := "dev"
      principalArn := some "arn:aws:iam::1:user/ci" },
    ⟨0, rfl⟩, rfl, rfl, rfl⟩

/-- The four nodes of that run are stored with their environments. -/
theorem reaching_environments_stored :
    reachingGraph.nodes.map (·.environment) = ["dev", "dev", "staging", "dev"] ∧
      EnvironmentsStored criticalSecret reachingRun.2.2 reachingGraph := by
  let _ := plainDigest
  let _ := exactScalar
  have distinct : DistinctDraws reachingCalls criticalSecret := by
    refine ⟨?_, ?_, ?_⟩
    · intro answers answered
      obtain ⟨_, same⟩ := answered
      cases same
      exact fun _ _ same => Nat.add_left_cancel same
    · intro answers answered drawn inside
      exact absurd inside List.not_mem_nil
    · intro answers answered drawn inside
      exact absurd inside List.not_mem_nil
  have returns : reachingRun.1.isOk = true := by decide
  rcases ran : reachingRun with ⟨raised | value, after, rows⟩
  · rw [ran] at returns
    cases returns
  · have stored := run_environmentsStored_iff rfl rfl distinct ran
    refine ⟨by decide, (stored.2 .dev reachedPair reachingGraph_builtFor).mpr ⟨by decide, ?_⟩⟩
    simp only [reachedPair, ResourceRef.EnvironmentKept, List.forall_mem_cons]
    decide

/-- The nodes of a secret in production are stored as unknown. -/
theorem plain_environments_lost :
    (plainRun criticalJob 100 criticalSecret).1.isOk = true ∧
      (plainGraph criticalJob 100).nodes.map (·.environment) = ["prod", "prod"] ∧
      onceInvestigated.graphNodes.map (·.environment) = [.unknown, .unknown] ∧
      ¬ EnvironmentsStored criticalSecret onceInvestigated (plainGraph criticalJob 100) := by
  have given : (plainGraph criticalJob 100).nodes.map (·.environment) = ["prod", "prod"] := by
    decide
  have stored : onceInvestigated.graphNodes.map (·.environment) = [.unknown, .unknown] := by decide
  refine ⟨by decide, given, stored, ?_⟩
  rintro ⟨rows, same, matched⟩
  rw [same] at stored
  have kept : rows.map (·.environment) =
      ((plainGraph criticalJob 100).nodes.map (·.environment)).map databaseEnvironment := by
    rw [List.map_map]
    refine List.Forall₂.rec rfl (fun row _ rest => congrArg₂ List.cons row.2 rest) matched
  rw [given] at kept
  change rows.map (·.environment) = [.unknown, .unknown] at stored
  rw [stored] at kept
  exact absurd kept (by decide)

end Example

end Sprawl
