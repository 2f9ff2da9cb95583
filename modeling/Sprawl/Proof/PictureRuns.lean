/-
This file proves that every stored graph of a run is drawn well.
-/

import Sprawl.Api.Service
import Sprawl.Proof.DemoSession
import Sprawl.Proof.GraphShape
import Sprawl.Proof.Picture
import Sprawl.Proof.Refresh
import Sprawl.Proof.TriggerAlone

namespace Sprawl

open Effect

/-- What happens in the service, and a new demo session. -/
inductive PictureAction (κ : Type) where
  | service (action : ServiceAction κ)
  | demoSession (settings : DemoSettings) (uuid4 : Nat → Uuid)

/-- The rows after an action. A demo session that is refused leaves them as they are. -/
def PictureAction.step {κ : Type} [Sha256] [UuidCodec] (F : Type) [Scalar F] :
    PictureAction κ → Database → Database
  | .service action, db => action.step F db
  | .demoSession settings uuid4, db => match createDemoSession settings uuid4 db with
      | .ok created => created.2
      | .error _ => db

section Layers

/-- An edge leads from a node of its secret to a node of its secret on a higher level. -/
def GraphEdge.Leads (nodes : List GraphNode) (edge : GraphEdge) : Prop :=
  ∃ source ∈ nodes, ∃ target ∈ nodes, source.id = edge.srcNodeId ∧ target.id = edge.dstNodeId ∧
    source.kind.level < target.kind.level ∧
    (source.secretId = edge.secretId ∧ source.workspaceId = edge.workspaceId) ∧
    (target.secretId = edge.secretId ∧ target.workspaceId = edge.workspaceId)

/-- The keys of the nodes are unique, and every edge leads to a higher level. -/
structure Database.Layered (db : Database) : Prop where
  unique : (db.graphNodes.map (·.id)).Nodup
  leads : ∀ edge ∈ db.graphEdges, edge.Leads db.graphNodes

theorem GraphEdge.Leads.mono {nodes more : List GraphNode} {edge : GraphEdge}
    (leads : edge.Leads nodes) (within : ∀ node ∈ nodes, node ∈ more) : edge.Leads more := by
  obtain ⟨source, sourceInside, target, targetInside, rest⟩ := leads
  exact ⟨source, within source sourceInside, target, within target targetInside, rest⟩

/-- A whole graph is added to the stored ones. -/
theorem Database.Layered.append {db after : Database} (layered : db.Layered)
    {nodes : List GraphNode} {edges : List GraphEdge}
    (addedNodes : after.graphNodes = db.graphNodes ++ nodes)
    (addedEdges : after.graphEdges = db.graphEdges ++ edges)
    (unique : (after.graphNodes.map (·.id)).Nodup) (leads : ∀ edge ∈ edges, edge.Leads nodes) :
    after.Layered where
  unique := unique
  leads := by
    rw [addedEdges, addedNodes, List.forall_mem_append]
    exact ⟨fun edge inside => (layered.leads edge inside).mono fun _ => List.mem_append_left _,
      fun edge inside => (leads edge inside).mono fun _ => List.mem_append_right _⟩

/-- The tables of the graph alone decide. -/
theorem Database.Layered.same {db after : Database} (layered : db.Layered)
    (nodes : after.graphNodes = db.graphNodes) (edges : after.graphEdges = db.graphEdges) :
    after.Layered where
  unique := nodes ▸ layered.unique
  leads := nodes ▸ edges ▸ layered.leads

/-- What the api reads for a secret is drawn well. -/
theorem Database.Layered.pictured {db : Database} (layered : db.Layered)
    (workspaceId secretId : Uuid) :
    Pictured (toFlowNodes (db.apiAnswer (.graphNodes secretId workspaceId)))
      (toFlowEdges (db.apiAnswer (.graphEdges secretId workspaceId))) := by
  refine toFlow_pictured (layered.unique.sublist (List.filter_sublist.map _)) ?_
  intro edge inside
  obtain ⟨stored, owned⟩ := List.mem_filter.mp inside
  rw [Bool.and_eq_true, decide_eq_true_iff, decide_eq_true_iff] at owned
  obtain ⟨source, sourceInside, target, targetInside, begins, ends, below, sourceOwned,
    targetOwned⟩ := layered.leads edge stored
  refine ⟨source, List.mem_filter.mpr ⟨sourceInside, ?_⟩, target,
    List.mem_filter.mpr ⟨targetInside, ?_⟩, begins, ends, below⟩
  · simp [sourceOwned, owned]
  · simp [targetOwned, owned]

end Layers

section Build

variable (builder : BlastRadiusBuilder) (principal : PrincipalRef) (resources : List ResourceRef)
  (storeVerify : Option StoreVerification)

/-- An edge of a built graph leads to a higher level. -/
def GraphEdgeData.Leads (nodes : List GraphNodeData) (edge : GraphEdgeData) : Prop :=
  ∃ source ∈ nodes, ∃ target ∈ nodes, source.id = edge.srcNodeId ∧ target.id = edge.dstNodeId ∧
    source.kind.level < target.kind.level

theorem secret_above_principal : NodeKind.secret.level < NodeKind.principal.level := by decide

theorem principal_above_resource : NodeKind.principal.level < NodeKind.resource.level := by decide

theorem resource_above_environment : NodeKind.resource.level < NodeKind.environment.level := by
  decide

theorem secret_above_store : NodeKind.secret.level < NodeKind.storeEntry.level := by decide

theorem build_leads : ∀ edge ∈ (builder.build principal resources storeVerify).2.1,
    edge.Leads (builder.build principal resources storeVerify).1 := by
  have hangs (parent : GraphNodeData) (kind : NodeKind) (edgeKind : EdgeKind)
      (part : GraphNodeData × GraphEdgeData) (hang : builder.Hangs parent.id kind edgeKind part)
      (below : parent.kind.level < kind.level) {nodes : List GraphNodeData}
      (parentInside : parent ∈ nodes) (partInside : part.1 ∈ nodes) : part.2.Leads nodes := by
    have link := hang.link
    obtain ⟨begins, ends⟩ := Prod.mk.inj link
    exact ⟨parent, parentInside, part.1, partInside, begins.symm, ends.symm, hang.kind ▸ below⟩
  refine List.forall_mem_cons.mpr ⟨?_, ?_⟩
  · exact ⟨builder.secretNode, List.mem_cons_self, builder.principalNode principal,
      List.mem_cons_of_mem _ List.mem_cons_self, rfl, rfl, secret_above_principal⟩
  · rw [List.forall_mem_map]
    intro part inside
    have partInside : part.1 ∈ (builder.build principal resources storeVerify).1 :=
      List.mem_cons_of_mem _ (List.mem_cons_of_mem _ (List.mem_map_of_mem inside))
    obtain resource | store := List.mem_append.mp inside
    · exact hangs (builder.principalNode principal) _ _ part
        (builder.resourceParts_hang _ 3 resources part resource) principal_above_resource
        (List.mem_cons_of_mem _ List.mem_cons_self) partInside
    · exact hangs builder.secretNode _ _ part (builder.storeParts_hang _ storeVerify part store)
        secret_above_store List.mem_cons_self partInside

/-- The rows of a job lead as the edges of its graph do. -/
theorem graphRows_lead (job : InvestigationJob) {graph : BlastRadiusGraph}
    (leads : ∀ edge ∈ graph.edges, edge.Leads graph.nodes) :
    ∀ edge ∈ (job.graphRows graph).2, edge.Leads (job.graphRows graph).1 := by
  rw [InvestigationJob.graphRows, List.forall_mem_map]
  intro edge inside
  obtain ⟨source, sourceInside, target, targetInside, begins, ends, below⟩ := leads edge inside
  exact ⟨_, List.mem_map_of_mem sourceInside, _, List.mem_map_of_mem targetInside, begins, ends,
    below, ⟨rfl, rfl⟩, ⟨rfl, rfl⟩⟩

end Build

section Investigations

variable [Sha256] {F : Type} [Scalar F] (job : InvestigationJob) {around : JobSurroundings}
  {db : Database}

/-- An investigation stores a whole graph or none. -/
theorem InvestigationJob.ran_layered (layered : db.Layered)
    (distinct : ∀ calls, usedRun around.graphRuns = some calls → DistinctDraws calls db) :
    (job.ran F around db).2.2.Layered := by
  rcases ran : (job.attempt F).runOn (JobTransaction.start around, db) with
    ⟨raised | value, after, rows⟩
  · have stored := investigateSecret_error job rfl ran
    refine layered.same (stored.keeps (·.graphNodes) ?_) (stored.keeps (·.graphEdges) ?_)
    all_goals
      intro statement unstored now rows
      cases statement <;> first | rfl | exact unstored.elim
  · have returned := (investigateSecret_ok_iff job).mpr ran
    have same : (job.ran F around db).2.2 = rows := congrArg (·.2.2) returned
    rw [same]
    obtain ⟨calls, used, _, applied⟩ := (attempt_ok_iff job).mp ⟨value, after, ran⟩
    cases built : (runGraph (F := F) calls (job.initialState around.trace)).graph with
    | none =>
        have performed := Database.applyEach_performed applied
        change rows = (_ ++ job.persisted (runGraph (F := F) calls
          (job.initialState around.trace)) _).foldl _ _ at performed
        rw [InvestigationJob.persisted, built, Option.elim_none, List.nil_append,
          List.foldl_append] at performed
        have before := opening_aroundGraph job (whereTrue around.trace)
        have behind := ending_aroundGraph job
          (runGraph (F := F) calls (job.initialState around.trace))
          (JobTransaction.start around).nextId
        refine layered.same ?_ ?_
        · rw [performed]
          exact (noNode_keeps behind.noNode).trans (noNode_keeps before.noNode)
        · rw [performed]
          exact (noEdge_keeps behind.noEdge).trans (noEdge_keeps before.noEdge)
    | some graph =>
        obtain ⟨nodes, edges⟩ := run_graphRows job used built (distinct calls used) returned
        have pipeline : (runGraph (F := F) calls (job.initialState around.trace)).Built calls :=
          runGraph_built rfl
        obtain ⟨answers, answered, context, rfl⟩ := pipeline graph built
        refine layered.append nodes edges ?_ (graphRows_lead job (build_leads _ _ _ _))
        obtain ⟨draws, _, nodup, _, ids, _⟩ := blastRadiusGraph_draws answers context
        have keys : (job.graphRows (blastRadiusGraph answers context)).1.map (·.id) =
            draws.map answers.uuid4 := by
          rw [← ids, InvestigationJob.graphRows, List.map_map]
          rfl
        rw [nodes, List.map_append, keys, List.nodup_append']
        refine ⟨layered.unique, nodup.map ((distinct calls used).injective answers answered), ?_⟩
        intro id stored drawn
        obtain ⟨draw, _, rfl⟩ := List.mem_map.mp drawn
        exact (distinct calls used).newNode answers answered draw stored

end Investigations

section Requests

variable [Sha256]

/-- The rows of the graphs. -/
def Database.graphs (db : Database) : List GraphNode × List GraphEdge :=
  (db.graphNodes, db.graphEdges)

/-- No statement of a rotation is about a graph. -/
theorem apply_graphs (statement : Write) (db : Database) :
    (db.apply statement).graphs = db.graphs := by
  cases statement <;> rfl

theorem view_graphs {κ : Type} (session : Session Database κ) :
    session.view.graphs = session.db.graphs := by
  rw [Session.view]
  generalize session.db = db
  induction session.pending generalizing db with
  | nil => rfl
  | cons statement rest ih => exact (ih _).trans (apply_graphs statement db)

/-- No rotation program writes to the graphs. -/
theorem rotation_graphs {κ α : Type} (connectors : Connectors κ)
    (program : Program Command Command.Reply α) (session : Session Database κ) :
    (program.run (Session.answer connectors) session).2.db.graphs = session.db.graphs := by
  refine Program.run_invariant _ (fun reached : Session Database κ =>
    reached.db.graphs = session.db.graphs) ?_ program rfl
  intro issued reached same
  cases issued with
  | commit => exact (view_graphs reached).trans same
  | acquireLock secretId rotationId =>
      rw [Session.answer]
      split <;> exact same
  | releaseLock secretId rotationId =>
      rw [Session.answer]
      split <;> exact same
  | _ => exact same

variable [UuidCodec]

/-- No statement of a request is about a graph. -/
theorem apiApply_graphs {statement : ApiWrite} {db rows : Database}
    (applied : db.apiApply statement = .ok rows) : rows.graphs = db.graphs := by
  cases statement with
  | investigation id workspaceId secretId =>
      simp only [Database.apiApply, Database.insertInvestigation] at applied
      split at applied
      · cases applied
        rfl
      · split at applied <;> cases applied
        rfl
  | rotation row =>
      simp only [Database.apiApply, Database.insertRotation] at applied
      split at applied
      · cases applied
      · split at applied
        · cases applied
          rfl
        · split at applied <;> cases applied
          rfl
  | rotationStep row =>
      simp only [Database.apiApply, Database.insertStep] at applied
      split at applied <;> cases applied
      rfl
  | audit entry =>
      simp only [Database.apiApply, Database.insertAudit] at applied
      split at applied <;> cases applied
      rfl

/-- No handler of the api writes to the graphs. -/
theorem ApiHandler.respond_graphs (db : Database) (uuids : List Uuid) (statusCode : Nat)
    (handler : ApiHandler Json) : (handler.respond db uuids statusCode).2.graphs = db.graphs := by
  refine (Program.run_invariant _ (fun session : ApiSession =>
    session.committed.graphs = db.graphs ∧ session.working.graphs = db.graphs) ?_ handler.run
      ⟨rfl, rfl⟩).1
  intro issued session same
  cases issued with
  | write statement =>
      rw [ApiSession.answer]
      split
      · next written applied => exact ⟨same.1, (apiApply_graphs applied).trans same.2⟩
      · exact same
  | commit => exact ⟨same.2, same.2⟩
  | _ => exact same

theorem ApiRequest.respond_graphs (request : ApiRequest) (db : Database) (around : Surroundings)
    (claims : TokenClaims) : (request.respond db around claims).2.graphs = db.graphs := by
  have page (limit offset : Int) (handler : ApiHandler Json) :
      (respondPage db around.uuids limit offset handler).2.graphs = db.graphs := by
    rw [respondPage]
    split
    · exact ApiHandler.respond_graphs ..
    · rfl
  cases request with
  | workspace workspaceId route =>
      cases route with
      | listSecrets limit offset => exact page ..
      | listInvestigations limit offset => exact page ..
      | listRotations limit offset => exact page ..
      | listAuditEvents limit offset => exact page ..
      | approveRotation rotationId => exact rotation_graphs _ _ _
      | rejectRotation rotationId => exact rotation_graphs _ _ _
      | confirmStep rotationId stepId => exact rotation_graphs _ _ _
      | _ => exact ApiHandler.respond_graphs ..
  | simulateFailure sessionId => exact rotation_graphs _ _ _

end Requests

section Demo

variable [Sha256]

omit [Sha256] in
/-- The keys of the nodes stay unique under inserts. -/
theorem seedAll_nodes_unique {rows : List SeedRow} {db seeded : Database}
    (ran : Database.seedAll rows db = .ok seeded) (unique : (db.graphNodes.map (·.id)).Nodup) :
    (seeded.graphNodes.map (·.id)).Nodup := by
  induction rows generalizing db with
  | nil =>
      cases ran
      exact unique
  | cons row rest ih =>
      rw [Database.seedAll] at ran
      split at ran
      · next accepted =>
          refine ih ran ?_
          cases row with
          | graphNode row =>
              simp only [Database.accepts, Bool.and_eq_true, Bool.not_eq_true',
                ← Bool.not_eq_true, List.contains_iff_mem] at accepted
              simp only [Database.push, List.map_append, List.map_cons, List.map_nil]
              rw [List.nodup_append']
              refine ⟨unique, List.nodup_singleton _, ?_⟩
              intro id stored added
              exact accepted.1 (List.mem_singleton.mp added ▸ stored)
          | _ => exact unique
      · cases ran

theorem demo_leads (ids : DemoIds) : ∀ edge ∈ ids.graphEdges, edge.Leads ids.graphNodes := by
  rw [DemoIds.graphEdges, List.forall_mem_cons, List.forall_mem_cons, List.forall_mem_singleton]
  refine ⟨?_, ?_, ?_⟩
  · exact ⟨_, List.mem_cons_self, _, List.mem_cons_of_mem _ List.mem_cons_self, rfl, rfl,
      secret_above_principal, ⟨rfl, rfl⟩, ⟨rfl, rfl⟩⟩
  · exact ⟨_, List.mem_cons_of_mem _ List.mem_cons_self,
      _, List.mem_cons_of_mem _ (List.mem_cons_of_mem _ List.mem_cons_self), rfl, rfl,
      principal_above_resource, ⟨rfl, rfl⟩, ⟨rfl, rfl⟩⟩
  · exact ⟨_, List.mem_cons_of_mem _ (List.mem_cons_of_mem _ List.mem_cons_self),
      _, List.mem_cons_of_mem _ (List.mem_cons_of_mem _
        (List.mem_cons_of_mem _ List.mem_cons_self)), rfl, rfl,
      resource_above_environment, ⟨rfl, rfl⟩, ⟨rfl, rfl⟩⟩

/-- A demo session is seeded with a whole graph. -/
theorem createDemoSession_layered {settings : DemoSettings} {uuid4 : Nat → Uuid}
    {db : Database} {created : DemoSessionResult × Database}
    (ran : createDemoSession settings uuid4 db = .ok created) (layered : db.Layered) :
    created.2.Layered := by
  obtain ⟨inserted, _⟩ := createDemoSession_eq_ok.mp ran
  obtain ⟨_, pushed⟩ := Database.seedAll_eq_ok.mp inserted
  obtain ⟨log, next, logged⟩ := DemoIds.entries_logged db.clock genesisHash
    (DemoIds.draw uuid4).auditEntries ((DemoIds.draw uuid4).planted settings db)
  rw [DemoIds.rows_eq, List.foldl_append, DemoIds.front_planted, logged] at pushed
  refine layered.append ?_ ?_ (seedAll_nodes_unique inserted layered.unique)
    (demo_leads (DemoIds.draw uuid4))
  · rw [← pushed]
    rfl
  · rw [← pushed]
    rfl

end Demo

section Runs

variable {κ : Type} [Sha256] [UuidCodec] (F : Type) [Scalar F]

/-- The draws of an investigation are new. -/
def PictureAction.Drawn (db : Database) : PictureAction κ → Prop
  | .service (.investigate _ around) =>
      ∀ calls, usedRun around.graphRuns = some calls → DistinctDraws calls db
  | _ => True

theorem PictureAction.step_layered (db : Database) (action : PictureAction κ) (layered : db.Layered)
    (drawn : action.Drawn db) : (action.step F db).Layered := by
  cases action with
  | service action =>
      cases action with
      | investigate job around => exact job.ran_layered layered drawn
      | request around claims sent =>
          obtain ⟨nodes, edges⟩ := Prod.mk.inj (sent.respond_graphs db around claims)
          exact layered.same nodes edges
      | rotate job connectors external =>
          obtain ⟨nodes, edges⟩ := Prod.mk.inj
            (rotation_graphs connectors (runRotationStep job) (engineSession external db))
          exact layered.same nodes edges
      | passed elapsed => exact layered.same rfl rfl
  | demoSession settings uuid4 =>
      rw [PictureAction.step]
      split
      · next created ran => exact createDemoSession_layered ran layered
      · exact layered

/-- The body of a response has the rows of a graph. -/
def Json.ShowsGraph (body : Json) (nodes : List GraphNode) (edges : List GraphEdge) : Prop :=
  ∃ secret coverage, body = okEnvelope [("secret", secret),
    ("nodes", .arr (nodes.map fun node => .obj node.out)),
    ("edges", .arr (edges.map fun edge => .obj edge.out)), ("coverage", coverage)]

omit F in
theorem getBlastRadius_shows {db : Database} {around : Surroundings} {claims : TokenClaims}
    {workspaceId secretId : Uuid} {body : Json}
    (responded : ((Route.getBlastRadius secretId).respond db around claims workspaceId).1 =
      .success 200 body) :
    body.ShowsGraph (db.apiAnswer (.graphNodes secretId workspaceId))
      (db.apiAnswer (.graphEdges secretId workspaceId)) := by
  rw [Route.respond, ApiHandler.respond] at responded
  cases found : db.apiAnswer (.secret secretId workspaceId) with
  | none =>
      simp [getBlastRadius, requireSecret, orNotFound, query, issueApi, ExceptT.run_bind,
        ApiSession.answer, Response.of, found] at responded
  | some secret =>
      have ran : Raising.run ApiSession.answer (getBlastRadius workspaceId secretId)
          (.opened db around.uuids) = _ :=
        Raising.run_bind_ok _ (requireSecret_run found around.uuids)
      have returned := congrArg (Response.of 200 ·.1) ran
      exact ⟨_, _, (Response.success.inj (responded.symm.trans returned)).2⟩

/-- Whatever graphs the investigations and the demo sessions of a run have stored, the web client
draws each of them well: no two boxes overlap, and every edge leads down. -/
theorem pictures_in_order {actions : List (PictureAction κ)} {db : Database}
    (noNodes : db.graphNodes = []) (noEdges : db.graphEdges = [])
    (drawn : ∀ visit ∈ visits (PictureAction.step F) actions db, visit.2.Drawn visit.1)
    {around : Surroundings} {claims : TokenClaims} {workspaceId secretId : Uuid} {body : Json}
    (responded : ((Route.getBlastRadius secretId).respond
      (runActions (PictureAction.step F) actions db) around claims workspaceId).1 =
        .success 200 body) :
    ∃ nodes edges, body.ShowsGraph nodes edges ∧
      Pictured (toFlowNodes nodes) (toFlowEdges edges) := by
  have start : db.Layered := by
    constructor
    · rw [noNodes]
      exact List.nodup_nil
    · rw [noEdges]
      exact fun edge inside => absurd inside List.not_mem_nil
  have layered := invariant_runActions Database.Layered (PictureAction.step_layered F) start drawn
  exact ⟨_, _, getBlastRadius_shows responded, layered.pictured workspaceId secretId⟩

end Runs

section Example

/-- A demo session, and then an investigation of a secret that is not its own. -/
def demoAndInvestigated : List (PictureAction Unit) :=
  [.demoSession { ttl := 24, hour := 1 } (· + 10),
    .service (.investigate criticalJob (plainAround 100))]

/-- The response to a request for the graph of the secret. -/
def demoResponse : Response :=
  (@Route.respond plainDigest plainCodec
    (runActions (@PictureAction.step Unit plainDigest plainCodec Rat exactScalar)
      demoAndInvestigated criticalSecret)
    { uuids := [], hour := 1 } viewerOfOne criticalJob.workspaceId
    (.getBlastRadius criticalJob.secretId)).1

theorem demoResponse_shows : ∃ body, demoResponse = .success 200 body := ⟨_, rfl⟩

theorem pictures_in_order_investigated :
    ∃ body, demoResponse = .success 200 body ∧ ∃ nodes edges, body.ShowsGraph nodes edges ∧
      Pictured (toFlowNodes nodes) (toFlowEdges edges) := by
  obtain ⟨body, responded⟩ := demoResponse_shows
  refine ⟨body, responded, @pictures_in_order Unit plainDigest plainCodec Rat exactScalar
    demoAndInvestigated criticalSecret rfl rfl ?_ _ _ _ _ _ responded⟩
  rw [demoAndInvestigated, visits_cons, visits_cons, visits_nil, List.forall_mem_cons,
    List.forall_mem_singleton]
  refine ⟨trivial, ?_⟩
  intro calls used
  obtain rfl := Option.some.inj used
  exact plain_distinct (by decide) (by decide)

end Example

end Sprawl
