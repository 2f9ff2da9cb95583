/-
This file gives the race of the triggers for the one active rotation.
-/

import Sprawl.Proof.TriggerInserts

namespace Sprawl

open Effect

section Stages

/-- No request has inserted, one of them holds the slot of the secret, or one rotation is there. -/
inductive RacePhase where
  | free
  | held (index : Nat)
  | settled (rotationId : Uuid)

namespace TriggerStage

/-- The check of the request found no active rotation. -/
def missed : TriggerStage → Bool
  | .absent | .named _ | .proposed _ _ _ | .audited _ _ | .committed _ | .failed => true
  | .requiring | .checking | .found _ _ | .missing => false

def isCommitted : TriggerStage → Bool
  | .committed _ => true
  | _ => false

/-- The request has inserted nothing. -/
def isEarly : TriggerStage → Bool
  | .requiring | .checking | .absent | .named _ => true
  | _ => false

def isFailed : TriggerStage → Bool
  | .failed => true
  | _ => false

/-- The request may hold the slot of the secret. -/
def holds : TriggerStage → Bool
  | .proposed _ _ _ | .audited _ _ => true
  | _ => false

end TriggerStage

section Fits

variable [Sha256] [UuidCodec] (workspaceId secretId : Uuid)

/-- The transaction has inserted a rotation, and holds its slot. -/
structure TriggerTransaction.Holds (own : TriggerTransaction) (db : Database) (rotationId : Uuid)
    (drawn : List Uuid) (written : Nat) : Prop where
  began : ∃ time, own.startedAt = some time
  proposed : db.Proposed (own.workingAt db) workspaceId secretId rotationId drawn written
  locked : ∃ row, .rotation row ∈ own.pending ∧ row.secretId = secretId

/-- The transaction of a request in a stage. A request that lost has nothing pending. -/
def TriggerStage.Fits (phase : RacePhase) (db : Database) (index : Nat) (uuids : List Uuid)
    (own : TriggerTransaction) : TriggerStage → Prop
  | .requiring | .checking | .absent => own.pending = [] ∧ own.uuids = uuids
  | .named rotationId => own.pending = [] ∧ rotationId :: own.uuids = uuids
  | .proposed rotationId drawn written =>
      rotationId :: drawn ++ own.uuids = uuids ∧
        (phase = .held index ∧ own.Holds workspaceId secretId db rotationId drawn written ∨
          (∃ winner, phase = .settled winner) ∧ own.pending = [] ∧ written = 0)
  | .audited rotationId drawn =>
      rotationId :: drawn ++ own.uuids = uuids ∧ drawn.length = 4 ∧ phase = .held index ∧
        own.Holds workspaceId secretId db rotationId drawn 4
  | .committed rotationId => phase = .settled rotationId
  | .found rotationId _ => phase = .settled rotationId
  | .missing => False
  | .failed => ∃ winner, phase = .settled winner

variable {workspaceId secretId} {phase later : RacePhase} {db after : Database} {index : Nat}
  {uuids : List Uuid} {own : TriggerTransaction} {stage : TriggerStage}

/-- Before the race is settled, a request without the slot has inserted nothing. -/
theorem TriggerStage.Fits.isEarly (fits : stage.Fits workspaceId secretId phase db index uuids own)
    (undecided : ∀ winner, phase ≠ .settled winner) (apart : phase ≠ .held index) :
    stage.isEarly = true := by
  cases stage with
  | proposed =>
      obtain ⟨_, ⟨holds, _⟩ | ⟨⟨winner, settled⟩, _⟩⟩ := fits
      · exact absurd holds apart
      · exact absurd settled (undecided winner)
  | audited => exact absurd fits.2.2.1 apart
  | committed winner => exact absurd fits (undecided winner)
  | found winner => exact absurd fits (undecided winner)
  | missing => exact fits.elim
  | failed =>
      obtain ⟨winner, settled⟩ := fits
      exact absurd settled (undecided winner)
  | _ => rfl

/-- A request that has inserted nothing fits every phase. -/
theorem TriggerStage.Fits.transfer (fits : stage.Fits workspaceId secretId phase db index uuids own)
    (early : stage.isEarly = true) : stage.Fits workspaceId secretId later after index uuids own := by
  cases stage with
  | requiring => exact fits
  | checking => exact fits
  | absent => exact fits
  | named => exact fits
  | _ => cases early

omit [Sha256] [UuidCodec] in
theorem TriggerStage.outcome_early (early : stage.isEarly = true) :
    stage.outcome secretId = none := by
  cases stage with
  | requiring => rfl
  | checking => rfl
  | absent => rfl
  | named => rfl
  | _ => cases early

end Fits

section Race

variable [Sha256] [UuidCodec] (workspaceId secretId : Uuid) (known : String → Prop)

/-- A request keeps to its conversation, and its identifiers are unused until it commits. -/
structure Contends (phase : RacePhase) (db : Database) (index : Nat) (uuids : List Uuid)
    (thread : TriggerThread) (stage : TriggerStage) : Prop where
  leaves : Program.Leaves (rotationConversation workspaceId secretId known)
    (fun response left => left.outcome secretId = some response) stage thread.program
  fits : stage.Fits workspaceId secretId phase db index uuids thread.own
  unused : stage.isCommitted = false → ∀ id ∈ uuids, db.Unused id

/-- The rows in a phase, with the number of requests that have committed. -/
def RacePhase.Describes (db : Database) (stages : List TriggerStage) : RacePhase → Prop
  | .free => db.Inactive secretId ∧ stages.countP TriggerStage.isCommitted = 0
  | .held index =>
      db.Inactive secretId ∧ stages.countP TriggerStage.isCommitted = 0 ∧
        ∃ stage, stages[index]? = some stage ∧ stage.holds = true
  | .settled winner =>
      db.OnlyActive secretId winner ∧ db.Owned workspaceId secretId ∧
        (stages.countP TriggerStage.isCommitted = 1 ∨ stages.countP TriggerStage.missed = 0)

/-- The requests of a pool are in stages that fit its phase. -/
structure Race (draws : List (List Uuid)) (phase : RacePhase) (misses : Nat) (pool : TriggerPool)
    (stages : List TriggerStage) : Prop where
  ready : pool.shared.Ready workspaceId secretId known
  length : stages.length = pool.threads.length
  supplied : draws.length = pool.threads.length
  contends : ∀ index thread stage uuids, pool.threads[index]? = some thread →
    stages[index]? = some stage → draws[index]? = some uuids →
      Contends workspaceId secretId known phase pool.shared index uuids thread stage
  rows : phase.Describes workspaceId secretId pool.shared stages
  counted : stages.countP TriggerStage.missed = misses

/-- Each request draws five identifiers, and no identifier is drawn twice. -/
structure Draws (draws : List (List Uuid)) : Prop where
  enough : ∀ uuids ∈ draws, 5 ≤ uuids.length
  nodup : draws.flatten.Nodup

end Race

end Stages

section Moves

/-- A request with its stage and its identifiers. -/
structure Place (draws : List (List Uuid)) (pool : TriggerPool) (stages : List TriggerStage)
    (index : Nat) (thread : TriggerThread) (stage : TriggerStage) (uuids : List Uuid) : Prop where
  thread : pool.threads[index]? = some thread
  stage : stages[index]? = some stage
  draws : draws[index]? = some uuids

variable [Sha256] [UuidCodec] {workspaceId secretId : Uuid} {known : String → Prop}
  {draws : List (List Uuid)} {phase later : RacePhase} {misses more : Nat} {pool : TriggerPool}
  {stages : List TriggerStage} {index : Nat} {stage next : TriggerStage} {uuids : List Uuid}
  {thread : TriggerThread}

/-- The race after one request has moved. -/
theorem Race.set (race : Race workspaceId secretId known draws phase misses pool stages)
    (place : Place draws pool stages index thread stage uuids) {db : Database}
    {moved : TriggerThread} (ready : db.Ready workspaceId secretId known)
    (contends : Contends workspaceId secretId known later db index uuids moved next)
    (others : ∀ other thread stage uuids, other ≠ index → draws[other]? = some uuids →
      Contends workspaceId secretId known phase pool.shared other uuids thread stage →
        Contends workspaceId secretId known later db other uuids thread stage)
    (rows : later.Describes workspaceId secretId db (stages.set index next))
    (counted : (stages.set index next).countP TriggerStage.missed = more) :
    Race workspaceId secretId known draws later more
      { shared := db, threads := pool.threads.set index moved } (stages.set index next) where
  ready := ready
  length := by rw [List.length_set, List.length_set, race.length]
  supplied := by rw [List.length_set, race.supplied]
  contends := by
    intro other found reached drawn threads staged drew
    rw [List.getElem?_set] at threads staged
    by_cases same : index = other
    · subst same
      rw [if_pos rfl] at threads staged
      obtain ⟨_, isThread⟩ := Option.ite_none_right_eq_some.mp threads
      obtain ⟨_, isStage⟩ := Option.ite_none_right_eq_some.mp staged
      cases isThread
      cases isStage
      cases place.draws.symm.trans drew
      exact contends
    · rw [if_neg same] at threads staged
      exact others other found reached drawn (Ne.symm same) drew
        (race.contends other found reached drawn threads staged drew)
  rows := rows
  counted := counted

omit [Sha256] [UuidCodec] in
/-- A stage that counts as before leaves the phase as it is. -/
theorem RacePhase.Describes.set {db : Database}
    (describes : phase.Describes workspaceId secretId db stages)
    (staged : stages[index]? = some stage) (committed : next.isCommitted = stage.isCommitted)
    (missed : (∃ winner, phase = .settled winner) → next.missed = stage.missed)
    (holds : (∃ holder, phase = .held holder) → next.holds = stage.holds) :
    phase.Describes workspaceId secretId db (stages.set index next) := by
  cases phase with
  | free =>
      rw [Describes, countP_set_same staged committed]
      exact describes
  | held holder =>
      obtain ⟨inactive, uncommitted, held, found, isHolding⟩ := describes
      rw [Describes, countP_set_same staged committed]
      refine ⟨inactive, uncommitted, ?_⟩
      by_cases same : index = holder
      · subst same
        cases staged.symm.trans found
        obtain ⟨bound, _⟩ := List.getElem?_eq_some_iff.mp staged
        exact ⟨next, List.getElem?_set_self bound, (holds ⟨index, rfl⟩).trans isHolding⟩
      · exact ⟨held, (List.getElem?_set_ne same).trans found, isHolding⟩
  | settled winner =>
      rw [Describes, countP_set_same staged committed, countP_set_same staged (missed ⟨winner, rfl⟩)]
      exact describes

/-- The pool after the reply to a request. -/
def TriggerPool.answered (pool : TriggerPool) (index : Nat) (issued : ApiCommand)
    (rest : issued.Reply → ApiProgram (Except HttpError Json)) (own : TriggerTransaction) :
    TriggerPool :=
  let answer := TriggerTransaction.answer issued (own, pool.shared)
  { shared := answer.2.2, threads := pool.threads.set index ⟨rest answer.1, answer.2.1⟩ }

/-- The race goes on, in some phase. -/
def Races (workspaceId secretId : Uuid) (known : String → Prop) (draws : List (List Uuid))
    (misses : Nat) (pool : TriggerPool) : Prop :=
  ∃ phase stages, Race workspaceId secretId known draws phase misses pool stages

variable {issued : ApiCommand} {rest : issued.Reply → ApiProgram (Except HttpError Json)}
  {own : TriggerTransaction}

/-- A command that changes no rows leaves the other requests as they are. -/
theorem Race.goesOn (race : Race workspaceId secretId known draws phase misses pool stages)
    (place : Place draws pool stages index ⟨.command issued rest, own⟩ stage uuids)
    {reply : issued.Reply} {left : TriggerTransaction}
    (answered : TriggerTransaction.answer issued (own, pool.shared) = (reply, left, pool.shared))
    (fits : (stage.next issued reply).Fits workspaceId secretId phase pool.shared index uuids left)
    (committed : (stage.next issued reply).isCommitted = stage.isCommitted)
    (missed : (stage.next issued reply).missed = stage.missed)
    (holds : (∃ holder, phase = .held holder) → (stage.next issued reply).holds = stage.holds) :
    Races workspaceId secretId known draws misses (pool.answered index issued rest own) := by
  have contends := race.contends index _ stage uuids place.thread place.stage place.draws
  refine ⟨phase, stages.set index (stage.next issued reply), ?_⟩
  rw [TriggerPool.answered, answered]
  refine race.set place race.ready ⟨contends.leaves.2 reply, fits, ?_⟩ ?_ ?_ ?_
  · rw [committed]
    exact contends.unused
  · exact fun _ _ _ _ _ _ kept => kept
  · exact race.rows.set place.stage committed (fun _ => missed) holds
  · exact (countP_set_same place.stage missed).trans race.counted

/-- The secret is there. -/
theorem Race.requires (race : Race workspaceId secretId known draws phase misses pool stages)
    {rest : Option Secret → ApiProgram (Except HttpError Json)}
    (place : Place draws pool stages index
      ⟨.command (.select (.secret secretId workspaceId)) rest, own⟩ .requiring uuids) :
    Races workspaceId secretId known draws misses
      (pool.answered index (.select (.secret secretId workspaceId)) rest own) := by
  obtain ⟨_, ⟨nothing, same⟩, _⟩ := race.contends index _ _ uuids place.thread place.stage place.draws
  obtain ⟨secret, found⟩ := race.ready.secret
  have answered : TriggerTransaction.answer (.select (.secret secretId workspaceId))
      (own, pool.shared) =
        (some secret, { own with startedAt := some (own.began pool.shared) }, pool.shared) := by
    rw [TriggerTransaction.answer, workingAt_nothing nothing, ← found]
    rfl
  exact race.goesOn place answered ⟨nothing, same⟩ rfl rfl fun _ => rfl

/-- A check before the race is settled misses. -/
theorem Race.findsNone (race : Race workspaceId secretId known draws phase misses pool stages)
    {rest : Option (Uuid × RotationStatus) → ApiProgram (Except HttpError Json)}
    (place : Place draws pool stages index
      ⟨.command (.select (.activeRotation secretId workspaceId)) rest, own⟩ .checking uuids)
    (inactive : pool.shared.Inactive secretId) :
    Races workspaceId secretId known draws (misses + 1)
      (pool.answered index (.select (.activeRotation secretId workspaceId)) rest own) := by
  obtain ⟨leaves, ⟨nothing, same⟩, unused⟩ :=
    race.contends index _ _ uuids place.thread place.stage place.draws
  have unfound : pool.shared.apiAnswer (.activeRotation secretId workspaceId) = none :=
    inactive.answer
  have answered : TriggerTransaction.answer (.select (.activeRotation secretId workspaceId))
      (own, pool.shared) =
        (none, { own with startedAt := some (own.began pool.shared) }, pool.shared) := by
    rw [TriggerTransaction.answer, workingAt_nothing nothing,
      ← unfound]
    rfl
  refine ⟨phase, stages.set index .absent, ?_⟩
  rw [TriggerPool.answered, answered]
  refine race.set place race.ready ⟨leaves.2 none, ⟨nothing, same⟩, fun _ => unused rfl⟩ ?_ ?_ ?_
  · exact fun _ _ _ _ _ _ kept => kept
  · refine race.rows.set place.stage rfl (fun settled => ?_) fun _ => rfl
    obtain ⟨winner, rfl⟩ := settled
    have active := race.rows.1.active
    rw [inactive.filter] at active
    cases active
  · have total : _ + (TriggerStage.missed .checking).toNat =
        _ + (TriggerStage.missed .absent).toNat := countP_set_add place.stage
    rw [race.counted] at total
    exact total

/-- A check after the race is settled finds the winner. -/
theorem Race.finds {winner : Uuid}
    (race : Race workspaceId secretId known draws (.settled winner) misses pool stages)
    {rest : Option (Uuid × RotationStatus) → ApiProgram (Except HttpError Json)}
    (place : Place draws pool stages index
      ⟨.command (.select (.activeRotation secretId workspaceId)) rest, own⟩ .checking uuids) :
    Races workspaceId secretId known draws misses
      (pool.answered index (.select (.activeRotation secretId workspaceId)) rest own) := by
  obtain ⟨_, ⟨nothing, _⟩, _⟩ := race.contends index _ _ uuids place.thread place.stage place.draws
  obtain ⟨status, found⟩ := race.rows.1.answer race.rows.2.1
  have answered : TriggerTransaction.answer (.select (.activeRotation secretId workspaceId))
      (own, pool.shared) = (some (winner, status),
        { own with startedAt := some (own.began pool.shared) }, pool.shared) := by
    rw [TriggerTransaction.answer, workingAt_nothing nothing, ← found]
    rfl
  exact race.goesOn place answered rfl rfl rfl fun _ => rfl

/-- A check misses exactly if the race is not settled. -/
theorem Race.checks (race : Race workspaceId secretId known draws phase misses pool stages)
    {rest : Option (Uuid × RotationStatus) → ApiProgram (Except HttpError Json)}
    (place : Place draws pool stages index
      ⟨.command (.select (.activeRotation secretId workspaceId)) rest, own⟩ .checking uuids) :
    Races workspaceId secretId known draws
      (misses + (pool.shared.misses (.select (.activeRotation secretId workspaceId))).toNat)
      (pool.answered index (.select (.activeRotation secretId workspaceId)) rest own) := by
  cases phase with
  | free =>
      rw [Database.misses, race.rows.1.answer]
      exact race.findsNone place race.rows.1
  | held holder =>
      rw [Database.misses, race.rows.1.answer]
      exact race.findsNone place race.rows.1
  | settled winner =>
      obtain ⟨status, there⟩ := race.rows.1.answer race.rows.2.1
      rw [Database.misses, there]
      exact race.finds place

theorem Race.times (race : Race workspaceId secretId known draws phase misses pool stages)
    {rest : Time → ApiProgram (Except HttpError Json)}
    (place : Place draws pool stages index ⟨.command .now rest, own⟩ .absent uuids) :
    Races workspaceId secretId known draws misses (pool.answered index .now rest own) := by
  have contends := race.contends index _ _ uuids place.thread place.stage place.draws
  have answered : TriggerTransaction.answer .now (own, pool.shared) =
      (pool.shared.clock, own, pool.shared) := rfl
  exact race.goesOn place answered contends.fits rfl rfl fun _ => rfl

theorem Race.names (race : Race workspaceId secretId known draws phase misses pool stages)
    (enough : Draws draws) {rest : Uuid → ApiProgram (Except HttpError Json)}
    (place : Place draws pool stages index ⟨.command .uuid4 rest, own⟩ .absent uuids) :
    Races workspaceId secretId known draws misses (pool.answered index .uuid4 rest own) := by
  obtain ⟨_, ⟨nothing, same⟩, _⟩ := race.contends index _ _ uuids place.thread place.stage place.draws
  have many := enough.enough uuids (List.mem_of_getElem? place.draws)
  cases drawn : own.uuids with
  | nil =>
      rw [← same, drawn] at many
      exact absurd many (by decide)
  | cons id others =>
      have answered : TriggerTransaction.answer .uuid4 (own, pool.shared) =
          (id, { own with uuids := others }, pool.shared) := by
        rw [TriggerTransaction.answer, drawn]
        rfl
      exact race.goesOn place answered ⟨nothing, drawn.symm.trans same⟩ rfl rfl fun _ => rfl

omit [Sha256] [UuidCodec] in
theorem Database.Proposed.redrawn {db rows : Database} {rotationId : Uuid} {drawn : List Uuid}
    (proposed : db.Proposed rows workspaceId secretId rotationId drawn 0) (others : List Uuid) :
    db.Proposed rows workspaceId secretId rotationId others 0 := by
  obtain ⟨workspaces, secrets, users, rotations, steps⟩ := proposed
  exact ⟨workspaces, secrets, users, rotations, steps⟩

/-- A request that has inserted its rotation, or has lost, draws the identifier of a step. -/
theorem Race.drawsStep (race : Race workspaceId secretId known draws phase misses pool stages)
    (enough : Draws draws) {rest : Uuid → ApiProgram (Except HttpError Json)} {rotationId : Uuid}
    {drawn : List Uuid} (few : drawn.length < 4)
    (place : Place draws pool stages index ⟨.command .uuid4 rest, own⟩
      (.proposed rotationId drawn 0) uuids) :
    Races workspaceId secretId known draws misses (pool.answered index .uuid4 rest own) := by
  obtain ⟨_, ⟨same, either⟩, _⟩ :=
    race.contends index _ _ uuids place.thread place.stage place.draws
  have many := enough.enough uuids (List.mem_of_getElem? place.draws)
  cases left : own.uuids with
  | nil =>
      rw [← same, left, List.append_nil, List.length_cons] at many
      omega
  | cons id others =>
      have answered : TriggerTransaction.answer .uuid4 (own, pool.shared) =
          (id, { own with uuids := others }, pool.shared) := by
        rw [TriggerTransaction.answer, left]
        rfl
      refine race.goesOn place answered ⟨?_, ?_⟩ rfl rfl fun _ => rfl
      · rw [← same, left, List.cons_append, List.append_assoc]
        rfl
      · obtain ⟨held, began, proposed, locked⟩ | lost := either
        · exact Or.inl ⟨held, began, proposed.redrawn (drawn ++ [id]), locked⟩
        · exact Or.inr lost

/-- The first insert takes the slot of the secret. -/
theorem Race.acquires (race : Race workspaceId secretId known draws .free misses pool stages)
    {row : NewRotation} {rest : Except SqlError Unit → ApiProgram (Except HttpError Json)}
    {rotationId : Uuid} (proposes : row.Proposes workspaceId secretId known rotationId)
    (place : Place draws pool stages index ⟨.command (.write (.rotation row)) rest, own⟩
      (.named rotationId) uuids) :
    Races workspaceId secretId known draws misses
      (pool.answered index (.write (.rotation row)) rest own) := by
  obtain ⟨leaves, ⟨nothing, same⟩, unused⟩ :=
    race.contends index _ _ uuids place.thread place.stage place.draws
  have fresh := unused rfl rotationId (same ▸ List.mem_cons_self)
  obtain ⟨new, rows, applied, proposed⟩ := insertRotation_proposed (own.began pool.shared) race.ready
    race.rows.1 fresh proposes
  rw [← workingAt_nothing nothing] at new applied
  have answered := answer_wrote applied new
  rw [TriggerPool.answered, answered]
  refine ⟨.held index, stages.set index (.proposed rotationId [] 0), ?_⟩
  have holds : (own.wrote pool.shared (.rotation row)).Holds workspaceId secretId pool.shared
      rotationId [] 0 := by
    refine ⟨⟨_, rfl⟩, ?_, row, List.mem_append_right _ List.mem_cons_self, proposes.2.2.1⟩
    rw [workingAt_wrote applied]
    exact proposed
  let proposedStage : TriggerStage := .proposed rotationId [] 0
  have committed : proposedStage.isCommitted = TriggerStage.isCommitted (.named rotationId) := rfl
  have missed : proposedStage.missed = TriggerStage.missed (.named rotationId) := rfl
  have next := leaves.2 (.ok ())
  have stays : TriggerStage.next (.named rotationId) (.write (.rotation row)) (.ok ()) =
      .proposed rotationId [] 0 := by
    rw [← proposes.1]
    rfl
  refine race.set place race.ready ⟨stays ▸ next, ⟨same, Or.inl ⟨rfl, holds⟩⟩, fun _ => unused rfl⟩
    ?_ ?_ ?_
  · intro other thread stage uuids _ _ contends
    refine ⟨contends.leaves, contends.fits.transfer (contends.fits.isEarly ?_ ?_), contends.unused⟩
    · exact fun _ settled => nomatch settled
    · exact fun held => nomatch held
  · obtain ⟨bound, _⟩ := List.getElem?_eq_some_iff.mp place.stage
    exact ⟨race.rows.1, (countP_set_same place.stage committed).trans race.rows.2, _,
      List.getElem?_set_self bound, rfl⟩
  · exact (countP_set_same place.stage missed).trans race.counted

/-- An insert after the race is settled does nothing. -/
theorem Race.loses {winner : Uuid}
    (race : Race workspaceId secretId known draws (.settled winner) misses pool stages)
    {row : NewRotation} {rest : Except SqlError Unit → ApiProgram (Except HttpError Json)}
    {rotationId : Uuid} (proposes : row.Proposes workspaceId secretId known rotationId)
    (place : Place draws pool stages index ⟨.command (.write (.rotation row)) rest, own⟩
      (.named rotationId) uuids) :
    Races workspaceId secretId known draws misses
      (pool.answered index (.write (.rotation row)) rest own) := by
  obtain ⟨leaves, ⟨nothing, same⟩, unused⟩ :=
    race.contends index _ _ uuids place.thread place.stage place.draws
  obtain ⟨stops, applied⟩ := race.rows.1.conflict (own.began pool.shared) race.ready proposes
  rw [← workingAt_nothing nothing] at stops applied
  refine race.goesOn place (answer_conflict applied stops) ?_ rfl rfl fun held => ?_
  · refine ⟨?_, Or.inr ⟨⟨winner, rfl⟩, nothing, rfl⟩⟩
    rw [proposes.1]
    exact same
  · obtain ⟨holder, other⟩ := held
    cases other

/-- The request with the slot has not returned, and has inserted its rotation. -/
theorem Race.holder {holder : Nat}
    (race : Race workspaceId secretId known draws (.held holder) misses pool stages) :
    ∃ issued rest own, pool.threads[holder]? = some ⟨.command issued rest, own⟩ ∧
      ∃ row, .rotation row ∈ own.pending ∧ row.secretId = secretId := by
  obtain ⟨_, _, stage, held, isHolding⟩ := race.rows
  obtain ⟨bound, _⟩ := List.getElem?_eq_some_iff.mp held
  have threads : holder < pool.threads.length := race.length ▸ bound
  have supplied : holder < draws.length := race.supplied ▸ threads
  obtain ⟨leaves, fits, _⟩ := race.contends holder _ stage _ (List.getElem?_eq_getElem threads) held
    (List.getElem?_eq_getElem supplied)
  obtain ⟨row, inside, same⟩ : ∃ row, .rotation row ∈ pool.threads[holder].own.pending ∧
      row.secretId = secretId := by
    cases stage with
    | proposed rotationId drawn written =>
        obtain ⟨_, ⟨_, holds⟩ | ⟨⟨winner, settled⟩, _⟩⟩ := fits
        · exact holds.locked
        · cases settled
    | audited rotationId drawn => exact fits.2.2.2.locked
    | _ => cases isHolding
  have running : stage.outcome secretId = none := by
    cases stage with
    | proposed rotationId drawn written => rfl
    | audited rotationId drawn => rfl
    | _ => cases isHolding
  obtain ⟨program, own, found⟩ : ∃ program own, pool.threads[holder] = ⟨program, own⟩ := ⟨_, _, rfl⟩
  rw [found] at leaves inside
  cases program with
  | pure response =>
      have returned : stage.outcome secretId = some response := leaves
      rw [running] at returned
      cases returned
  | command issued rest =>
      exact ⟨issued, rest, own, by rw [List.getElem?_eq_getElem threads, found], row, inside, same⟩

/-- An insert waits for the request with the slot. -/
theorem Race.waits {holder : Nat}
    (race : Race workspaceId secretId known draws (.held holder) misses pool stages)
    {row : NewRotation} {rest : Except SqlError Unit → ApiProgram (Except HttpError Json)}
    (thread : pool.threads[index]? = some ⟨.command (.write (.rotation row)) rest, own⟩)
    (same : row.secretId = secretId) (apart : holder ≠ index) :
    Pool.waits apiLocking [] index pool = true := by
  obtain ⟨issued, later, other, found, held, inside, ofSecret⟩ := race.holder
  unfold Pool.waits
  rw [thread]
  refine List.any_eq_true.mpr ⟨.activeOf secretId, ?_, decide_eq_true ?_⟩
  · change SqlLock.activeOf secretId ∈ [SqlLock.rotation row.id, .activeOf row.secretId]
    rw [same]
    exact List.mem_cons_of_mem _ List.mem_cons_self
  · rw [List.nil_append]
    refine List.mem_flatMap.mpr ⟨⟨.command issued later, other⟩, ?_, ?_⟩
    · obtain ⟨bound, here⟩ := List.getElem?_eq_some_iff.mp found
      exact List.mem_eraseIdx_iff_getElem.mpr ⟨holder, bound, apart, here⟩
    · refine List.mem_flatMap.mpr ⟨.rotation held, inside, ?_⟩
      change SqlLock.activeOf secretId ∈ [SqlLock.rotation held.id, .activeOf held.secretId]
      rw [ofSecret]
      exact List.mem_cons_of_mem _ List.mem_cons_self

/-- An insert that does not wait takes the slot or loses. -/
theorem Race.proposes (race : Race workspaceId secretId known draws phase misses pool stages)
    {row : NewRotation} {rest : Except SqlError Unit → ApiProgram (Except HttpError Json)}
    {rotationId : Uuid} (proposes : row.Proposes workspaceId secretId known rotationId)
    (place : Place draws pool stages index ⟨.command (.write (.rotation row)) rest, own⟩
      (.named rotationId) uuids)
    (goes : Pool.waits apiLocking [] index pool = false) :
    Races workspaceId secretId known draws misses
      (pool.answered index (.write (.rotation row)) rest own) := by
  cases phase with
  | free => exact race.acquires proposes place
  | settled winner => exact race.loses proposes place
  | held holder =>
      have apart : holder ≠ index := by
        intro same
        obtain ⟨_, _, stage, held, isHolding⟩ := race.rows
        rw [same, place.stage] at held
        cases held
        cases isHolding
      rw [race.waits place.thread proposes.2.2.1 apart] at goes
      cases goes

/-- The request with the slot adds a statement that goes through. -/
theorem TriggerTransaction.Holds.wrote {db rows : Database} {rotationId : Uuid} {drawn : List Uuid}
    {written later : Nat} (holds : own.Holds workspaceId secretId db rotationId drawn written)
    {statement : ApiWrite} (applied : (own.workingAt db).apiApply statement = .ok rows)
    (proposed : db.Proposed rows workspaceId secretId rotationId drawn later) :
    (own.wrote db statement).Holds workspaceId secretId db rotationId drawn later := by
  obtain ⟨row, inside, same⟩ := holds.locked
  refine ⟨⟨_, rfl⟩, ?_, row, List.mem_append_left _ inside, same⟩
  rw [workingAt_wrote applied]
  exact proposed

/-- A request inserts a step of its rotation. Without the rotation it fails. -/
theorem Race.insertsStep (race : Race workspaceId secretId known draws phase misses pool stages)
    (enough : Draws draws) {row : NewStep}
    {rest : Except SqlError Unit → ApiProgram (Except HttpError Json)} {rotationId : Uuid}
    {drawn : List Uuid} {written : Nat} (next : row.IsNext workspaceId rotationId drawn written)
    (place : Place draws pool stages index ⟨.command (.write (.rotationStep row)) rest, own⟩
      (.proposed rotationId drawn written) uuids) :
    Races workspaceId secretId known draws misses
      (pool.answered index (.write (.rotationStep row)) rest own) := by
  obtain ⟨_, ⟨same, either⟩, unused⟩ :=
    race.contends index _ _ uuids place.thread place.stage place.draws
  have fresh : ∀ id ∈ uuids, pool.shared.Unused id := unused rfl
  rw [← same, List.cons_append, List.forall_mem_cons, List.forall_mem_append] at fresh
  obtain ⟨held, holds⟩ | ⟨settled, nothing, none⟩ := either
  · have nodup : uuids.Nodup :=
      (List.nodup_flatten.mp enough.nodup).1 uuids (List.mem_of_getElem? place.draws)
    rw [← same, List.cons_append, List.nodup_cons] at nodup
    obtain ⟨rows, applied, proposed⟩ := insertStep_proposed holds.proposed race.ready.workspace
      (List.Nodup.of_append_left nodup.2) fresh.1 fresh.2.1 next
    refine race.goesOn place (answer_wrote applied rfl) ?_ rfl rfl fun _ => rfl
    exact ⟨same, Or.inl ⟨held, holds.wrote applied proposed⟩⟩
  · have refused : (own.workingAt pool.shared).apiApply (.rotationStep row) = .error .integrity := by
      rw [workingAt_nothing nothing]
      refine insertStep_refused _ ?_
      rw [next.1]
      exact fresh.1
    refine race.goesOn place (answer_raises refused) settled rfl rfl fun held => ?_
    obtain ⟨holder, other⟩ := held
    obtain ⟨winner, settled⟩ := settled
    rw [settled] at other
    cases other

/-- The request with the slot inserts its audit entry. -/
theorem Race.insertsAudit (race : Race workspaceId secretId known draws phase misses pool stages)
    {entry : AuditEntry} {rest : Except SqlError Unit → ApiProgram (Except HttpError Json)}
    {rotationId : Uuid} {drawn : List Uuid} (within : entry.workspaceId = workspaceId)
    (all : drawn.length = 4)
    (place : Place draws pool stages index ⟨.command (.write (.audit entry)) rest, own⟩
      (.proposed rotationId drawn 4) uuids) :
    Races workspaceId secretId known draws misses
      (pool.answered index (.write (.audit entry)) rest own) := by
  obtain ⟨_, ⟨same, either⟩, _⟩ :=
    race.contends index _ _ uuids place.thread place.stage place.draws
  obtain ⟨held, holds⟩ | ⟨_, _, nothing⟩ := either
  · obtain ⟨applied, proposed⟩ := insertAudit_proposed holds.proposed race.ready.workspace within
    refine race.goesOn place (answer_wrote applied rfl) ?_ rfl rfl fun _ => rfl
    exact ⟨same, all, held, holds.wrote applied proposed⟩
  · cases nothing

omit [Sha256] [UuidCodec] in
/-- No two requests draw the same identifier. -/
theorem Draws.apart (enough : Draws draws) {other : Nat} {others : List Uuid}
    (drew : draws[index]? = some uuids) (alsoDrew : draws[other]? = some others)
    (different : other ≠ index) {id : Uuid} (inside : id ∈ uuids) : id ∉ others := by
  have disjoint := (List.nodup_flatten.mp enough.nodup).2
  rw [List.pairwise_iff_getElem] at disjoint
  obtain ⟨bound, rfl⟩ := List.getElem?_eq_some_iff.mp drew
  obtain ⟨within, rfl⟩ := List.getElem?_eq_some_iff.mp alsoDrew
  intro again
  obtain before | behind := Nat.lt_or_gt_of_ne different
  · exact disjoint other index within bound before again inside
  · exact disjoint index other bound within behind inside again

omit [Sha256] [UuidCodec] in
/-- An identifier of another request is unused after a commit. -/
theorem Database.Proposed.unused {db rows : Database} {rotationId : Uuid} {drawn : List Uuid}
    {written : Nat} (proposed : db.Proposed rows workspaceId secretId rotationId drawn written)
    {id : Uuid} (unused : db.Unused id) (other : id ∉ rotationId :: drawn) : rows.Unused id := by
  obtain ⟨_, _, _, ⟨row, rotations, sameId, _⟩, steps, added, ofRotation, ids, _⟩ := proposed
  rw [List.mem_cons, not_or] at other
  refine ⟨?_, ?_⟩
  · rw [rotations]
    refine List.forall_mem_append.mpr ⟨unused.1, List.forall_mem_singleton.mpr ?_⟩
    rw [sameId]
    exact Ne.symm other.1
  · rw [added]
    refine List.forall_mem_append.mpr ⟨unused.2, fun step inside => ⟨fun same => ?_, ?_⟩⟩
    · have among : step.id ∈ drawn.take written := ids ▸ List.mem_map_of_mem inside
      exact other.2 (same ▸ List.mem_of_mem_take among)
    · rw [ofRotation step inside]
      exact Ne.symm other.1

/-- The commit of the request with the slot settles the race. -/
theorem Race.commits (race : Race workspaceId secretId known draws phase misses pool stages)
    (enough : Draws draws) {rest : Unit → ApiProgram (Except HttpError Json)} {rotationId : Uuid}
    {drawn : List Uuid}
    (place : Place draws pool stages index ⟨.command .commit rest, own⟩ (.audited rotationId drawn)
      uuids) :
    Races workspaceId secretId known draws misses (pool.answered index .commit rest own) := by
  obtain ⟨leaves, ⟨same, all, rfl, holds⟩, unused⟩ :=
    race.contends index _ _ uuids place.thread place.stage place.draws
  obtain ⟨inactive, uncommitted, _⟩ := race.rows
  have fresh : pool.shared.Unused rotationId := unused rfl rotationId (same ▸ List.mem_cons_self)
  have proposed := holds.proposed
  obtain ⟨only, owned⟩ := proposed.onlyActive inactive fresh
  have missed : TriggerStage.missed (.committed rotationId) =
    TriggerStage.missed (.audited rotationId drawn) := rfl
  refine ⟨.settled rotationId, stages.set index (.committed rotationId), ?_⟩
  refine race.set place ?_ ⟨leaves.2 (), rfl, fun early => nomatch early⟩ ?_ ?_ ?_
  · exact race.ready.transfer proposed.workspaces proposed.secrets proposed.users
  · intro other thread stage others different drew contends
    have isEarly : stage.isEarly = true := by
      refine contends.fits.isEarly ?_ ?_
      · exact fun _ settled => nomatch settled
      · exact fun held => different (RacePhase.held.inj held).symm
    refine ⟨contends.leaves, contends.fits.transfer isEarly, fun early id inside => ?_⟩
    · refine proposed.unused (contends.unused early id inside) fun taken => ?_
      refine enough.apart place.draws drew different ?_ inside
      rw [← same]
      exact List.mem_append_left _ taken
  · refine ⟨⟨only.active, only.steps⟩, owned, Or.inl ?_⟩
    have total : _ + (TriggerStage.isCommitted (.audited rotationId drawn)).toNat =
      _ + (TriggerStage.isCommitted (.committed rotationId)).toNat := countP_set_add place.stage
    rw [uncommitted] at total
    exact total
  · exact (countP_set_same place.stage missed).trans race.counted

end Moves

end Sprawl
