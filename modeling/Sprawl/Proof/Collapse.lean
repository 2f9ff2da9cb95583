/-
This file proves when concurrent triggers collapse to one rotation.
-/

import Sprawl.Proof.Isolation
import Sprawl.Proof.TriggerRace

namespace Sprawl

open Effect

section Runs

variable [Sha256] [UuidCodec] {workspaceId secretId : Uuid} {known : String → Prop}
  {draws : List (List Uuid)} {misses : Nat} {pool : TriggerPool} {index : Nat}

omit [Sha256] [UuidCodec] in
theorem misses_found {issued : ApiCommand} {rest : issued.Reply → ApiProgram (Except HttpError Json)}
    {own : TriggerTransaction} (found : pool.threads[index]? = some ⟨.command issued rest, own⟩) :
    pool.misses (.advance index) = pool.shared.misses issued := by
  rw [TriggerPool.misses, Pool.issued, found]
  rfl

/-- A request waits, has returned or issues its next command. -/
theorem TriggerPool.advance_cases (pool : TriggerPool) (index : Nat) :
    (pool.advance index = pool ∧ pool.misses (.advance index) = false) ∨
      ∃ issued rest own, pool.threads[index]? = some ⟨.command issued rest, own⟩ ∧
        Pool.waits apiLocking [] index pool = false ∧
        pool.advance index = pool.answered index issued rest own := by
  rw [TriggerPool.advance, Pool.stepWaiting]
  cases found : pool.threads[index]? with
  | none =>
      refine Or.inl ⟨?_, ?_⟩
      · rw [Pool.step, found, ite_self]
      · rw [TriggerPool.misses, Pool.issued, found]
        rfl
  | some thread =>
      obtain ⟨program, own⟩ := thread
      cases program with
      | pure response =>
          refine Or.inl ⟨?_, ?_⟩
          · rw [Pool.step, found, ite_self]
          · rw [TriggerPool.misses, Pool.issued, found]
            rfl
      | command issued rest =>
          cases waits : Pool.waits apiLocking [] index pool with
          | false =>
              refine Or.inr ⟨issued, rest, own, rfl, rfl, ?_⟩
              rw [if_neg Bool.false_ne_true, Pool.step, found]
              rfl
          | true =>
              refine Or.inl ⟨if_pos rfl, ?_⟩
              rw [Pool.waits, found] at waits
              rw [misses_found found]
              -- a query takes no lock
              cases issued with
              | write statement => rfl
              | _ => cases waits

/-- A request that goes on keeps the race. -/
theorem Races.advance (races : Races workspaceId secretId known draws misses pool)
    (enough : Draws draws) (index : Nat) :
    Races workspaceId secretId known draws
      (misses + (pool.misses (.advance index)).toNat) (pool.advance index) := by
  obtain ⟨phase, stages, race⟩ := races
  obtain ⟨same, silent⟩ | ⟨issued, rest, own, found, goes, same⟩ := pool.advance_cases index
  · rw [same, silent]
    exact ⟨phase, stages, race⟩
  · obtain ⟨bound, _⟩ := List.getElem?_eq_some_iff.mp found
    have staged : index < stages.length := race.length.symm ▸ bound
    have supplied : index < draws.length := race.supplied.symm ▸ bound
    have place : Place draws pool stages index ⟨.command issued rest, own⟩ stages[index]
        draws[index] :=
      ⟨found, List.getElem?_eq_getElem staged, List.getElem?_eq_getElem supplied⟩
    have leaves := (race.contends index _ _ _ place.thread place.stage place.draws).leaves
    have allowed : TriggerStage.Allows workspaceId secretId known stages[index] issued := leaves.1
    rw [same, misses_found found]
    generalize stages[index] = stage at place allowed
    cases allowed with
    | require => exact race.requires place
    | check => exact race.checks place
    | time => exact race.times place
    | name => exact race.names enough place
    | propose rotationId row proposes => exact race.proposes proposes place goes
    | draw rotationId drawn few => exact race.drawsStep enough few place
    | step rotationId drawn written row next => exact race.insertsStep enough next place
    | audit rotationId drawn entry within all => exact race.insertsAudit within all place
    | commit rotationId drawn => exact race.commits enough place

/-- A transaction that has begun does not look at the clock. -/
theorem TriggerTransaction.Holds.tick {own : TriggerTransaction} {db : Database} {rotationId : Uuid}
    {drawn : List Uuid} {written : Nat}
    (holds : own.Holds workspaceId secretId db rotationId drawn written) (time : Time) :
    own.Holds workspaceId secretId { db with clock := time } rotationId drawn written := by
  obtain ⟨⟨start, began⟩, proposed, locked⟩ := holds
  have same : own.workingAt { db with clock := time } = own.workingAt db := by
    rw [TriggerTransaction.workingAt, TriggerTransaction.workingAt, TriggerTransaction.began,
      TriggerTransaction.began, began]
    rfl
  refine ⟨⟨start, began⟩, ?_, locked⟩
  rw [same]
  obtain ⟨workspaces, secrets, users, rotations, steps⟩ := proposed
  exact ⟨workspaces, secrets, users, rotations, steps⟩

theorem TriggerStage.Fits.tick {phase : RacePhase} {db : Database} {uuids : List Uuid}
    {own : TriggerTransaction} {stage : TriggerStage}
    (fits : stage.Fits workspaceId secretId phase db index uuids own) (time : Time) :
    stage.Fits workspaceId secretId phase { db with clock := time } index uuids own := by
  cases stage with
  | proposed rotationId drawn written =>
      obtain ⟨same, ⟨held, holds⟩ | lost⟩ := fits
      · exact ⟨same, Or.inl ⟨held, holds.tick time⟩⟩
      · exact ⟨same, Or.inr lost⟩
  | audited rotationId drawn =>
      obtain ⟨same, all, held, holds⟩ := fits
      exact ⟨same, all, held, holds.tick time⟩
  | _ => exact fits

/-- The clock changes nothing for the requests. -/
theorem Races.tick (races : Races workspaceId secretId known draws misses pool) (elapsed : Time) :
    Races workspaceId secretId known draws misses (pool.tick elapsed) := by
  obtain ⟨phase, stages, race⟩ := races
  refine ⟨phase, stages, race.ready.transfer rfl rfl rfl, race.length, race.supplied, ?_, ?_,
    race.counted⟩
  · intro index thread stage uuids found staged drawn
    obtain ⟨leaves, fits, unused⟩ := race.contends index thread stage uuids found staged drawn
    exact ⟨leaves, fits.tick _, unused⟩
  · have rows := race.rows
    cases phase with
    | free => exact rows
    | held holder => exact rows
    | settled winner => exact ⟨⟨rows.1.active, rows.1.steps⟩, rows.2⟩

/-- A run counts the checks that found no active rotation. -/
theorem Races.run (enough : Draws draws) {actions : List TriggerAction}
    (races : Races workspaceId secretId known draws misses pool) :
    Races workspaceId secretId known draws
      (misses + (visits TriggerAction.step actions pool).countP fun visit => visit.1.misses visit.2)
      (runActions TriggerAction.step actions pool) := by
  induction actions generalizing misses pool with
  | nil => exact races
  | cons action rest ih =>
      rw [visits_cons, runActions_cons, List.countP_cons, Nat.add_comm (List.countP _ _),
        ← Nat.add_assoc]
      apply ih
      cases action with
      | advance index =>
          have next := races.advance enough index
          cases missing : pool.misses (.advance index) with
          | true =>
              rw [missing] at next
              exact next
          | false =>
              rw [missing] at next
              exact next
      | tick elapsed => exact races.tick elapsed

omit [Sha256] [UuidCodec] in
/-- A request that has returned responds with the outcome of its stage. -/
theorem leaves_response {thread : TriggerThread} {stage : TriggerStage}
    (leaves : Program.Leaves (rotationConversation workspaceId secretId known)
      (fun response left => left.outcome secretId = some response) stage thread.program)
    (ended : (TriggerThread.response thread).isSome = true) :
    stage.outcome secretId = TriggerThread.response thread := by
  obtain ⟨program, own⟩ := thread
  cases program with
  | command issued rest => cases ended
  | pure response => exact leaves

/-- The stage of a request after all requests have returned. -/
theorem Race.returned {phase : RacePhase} {stages : List TriggerStage}
    (race : Race workspaceId secretId known draws phase misses pool stages)
    (ended : ∀ thread ∈ pool.threads, (TriggerThread.response thread).isSome = true) {index : Nat}
    {stage : TriggerStage} (staged : stages[index]? = some stage) :
    ∃ thread uuids, pool.threads[index]? = some thread ∧
      stage.outcome secretId = TriggerThread.response thread ∧
        (TriggerThread.response thread).isSome = true ∧
          stage.Fits workspaceId secretId phase pool.shared index uuids thread.own := by
  obtain ⟨bound, _⟩ := List.getElem?_eq_some_iff.mp staged
  have supplied : index < draws.length := race.supplied ▸ race.length ▸ bound
  obtain ⟨thread, found⟩ : ∃ thread, pool.threads[index]? = some thread :=
    ⟨_, List.getElem?_eq_getElem (race.length ▸ bound)⟩
  obtain ⟨leaves, fits, _⟩ := race.contends index thread stage _ found staged
    (List.getElem?_eq_getElem supplied)
  have responded := ended thread (List.mem_of_getElem? found)
  exact ⟨thread, _, found, leaves_response leaves responded, responded, fits⟩

/-- After all requests have returned, the race is settled and each of them has found the winner,
is the winner or has failed. -/
theorem Race.allReturned {phase : RacePhase} {stages : List TriggerStage}
    (race : Race workspaceId secretId known draws phase misses pool stages)
    (ended : ∀ thread ∈ pool.threads, (TriggerThread.response thread).isSome = true)
    (any : pool.threads ≠ []) :
    ∃ winner, phase = .settled winner ∧ ∀ stage ∈ stages,
      (∃ status, stage = .found winner status) ∨ stage = .committed winner ∨ stage = .failed := by
  have settled : ∃ winner, phase = .settled winner := by
    cases phase with
    | settled winner => exact ⟨winner, rfl⟩
    | free =>
        have bound : 0 < stages.length := race.length ▸ List.length_pos_iff.mpr any
        obtain ⟨thread, uuids, _, outcome, responded, fits⟩ :=
          race.returned ended (List.getElem?_eq_getElem bound)
        have early := fits.isEarly (fun _ settled => nomatch settled) fun held => nomatch held
        rw [← outcome, TriggerStage.outcome_early early] at responded
        cases responded
    | held holder =>
        obtain ⟨issued, rest, own, found, _⟩ := race.holder
        exact absurd (ended _ (List.mem_of_getElem? found)) Bool.false_ne_true
  obtain ⟨winner, rfl⟩ := settled
  refine ⟨winner, rfl, fun stage inside => ?_⟩
  obtain ⟨index, staged⟩ := List.mem_iff_getElem?.mp inside
  obtain ⟨thread, uuids, _, outcome, responded, fits⟩ := race.returned ended staged
  rw [← outcome] at responded
  cases stage with
  | found rotationId status =>
      cases fits
      exact Or.inl ⟨status, rfl⟩
  | committed rotationId =>
      cases fits
      exact Or.inr (Or.inl rfl)
  | failed => exact Or.inr (Or.inr rfl)
  | missing => exact fits.elim
  | _ => cases responded

end Runs

section Outcome

theorem countP_missed {stages : List TriggerStage} {winner : Uuid}
    (returned : ∀ stage ∈ stages,
      (∃ status, stage = .found winner status) ∨ stage = .committed winner ∨ stage = .failed) :
    stages.countP TriggerStage.missed =
      stages.countP TriggerStage.isCommitted + stages.countP TriggerStage.isFailed := by
  induction stages with
  | nil => rfl
  | cons stage rest ih =>
      rw [List.forall_mem_cons] at returned
      rw [List.countP_cons, List.countP_cons, List.countP_cons, ih returned.2]
      obtain ⟨status, rfl⟩ | rfl | rfl := returned.1
      · rfl
      · exact Nat.add_right_comm _ _ 1
      · exact Nat.add_assoc _ _ 1

variable [Sha256] [UuidCodec] {workspaceId secretId : Uuid}

/-- The requests meet rows that keep the constraints of the schema, and `uuid4` repeats nothing. The
callers are users. An active rotation that is there before has its four steps. -/
structure RaceStart (db : Database) (workspaceId secretId : Uuid) (triggers : List RotationTrigger) :
    Prop where
  valid : db.Valid
  secret : ∃ secret ∈ db.secrets, secret.id = secretId ∧ secret.workspaceId = workspaceId
  earlier : ∀ row ∈ db.rotations, row.secretId = secretId → row.status.isTerminal = false →
    row.workspaceId = workspaceId ∧ (db.stepsOf row.id).map (·.idx) = [0, 1, 2, 3]
  callers : ∀ trigger ∈ triggers, ∃ user ∈ db.users, UuidCodec.encode trigger.claims.sub = some user
  draws : Draws (triggers.map (·.uuids))
  unused : ∀ trigger ∈ triggers, ∀ id ∈ trigger.uuids, db.Unused id

/-- The caller is a user. -/
def Database.Knows (db : Database) (text : String) : Prop :=
  ∃ user ∈ db.users, UuidCodec.encode text = some user

variable {db : Database} {triggers : List RotationTrigger}

omit [Sha256] in
theorem RaceStart.ready (start : RaceStart db workspaceId secretId triggers) :
    db.Ready workspaceId secretId db.Knows := by
  obtain ⟨workspace, secret, stored⟩ := start.valid.finds start.secret
  exact ⟨workspace, secret, stored, fun text known => known⟩

omit [Sha256] in
/-- A secret that is not free has one active rotation. -/
theorem RaceStart.onlyActive (start : RaceStart db workspaceId secretId triggers)
    (active : ¬ db.Inactive secretId) : ∃ rotationId, db.OnlyActive secretId rotationId := by
  simp only [Database.Inactive, not_forall, Bool.not_eq_true] at active
  obtain ⟨row, inside, same, isActive⟩ := active
  let rows := db.rotations.filter fun row => row.secretId = secretId && !row.status.isTerminal
  have among : row ∈ rows := by
    refine List.mem_filter.mpr ⟨inside, ?_⟩
    rw [isActive, decide_eq_true same]
    rfl
  have split : rows = (db.rotations.filter fun row => !row.status.isTerminal).filter
      fun row => row.secretId = secretId := (List.filter_filter ..).symm
  have nodup : (rows.map (·.secretId)).Nodup := by
    rw [split]
    exact start.valid.oneActiveRotation.sublist (List.filter_sublist.map _)
  have equal : rows.map (·.secretId) = List.replicate rows.length secretId := by
    rw [List.eq_replicate_iff]
    refine ⟨List.length_map _, fun asked given => ?_⟩
    obtain ⟨other, here, rfl⟩ := List.mem_map.mp given
    have selected := (List.mem_filter.mp here).2
    rw [Bool.and_eq_true, decide_eq_true_eq] at selected
    exact selected.1
  rw [equal, List.nodup_replicate] at nodup
  obtain ⟨only, single⟩ : ∃ only, rows = [only] := by
    refine List.length_eq_one_iff.mp (Nat.le_antisymm nodup ?_)
    exact List.length_pos_of_mem among
  rw [single, List.mem_singleton] at among
  subst among
  refine ⟨row.id, ?_, (start.earlier row inside same isActive).2⟩
  change rows.map (·.id) = _
  rw [single]
  rfl

/-- The race at the start. -/
theorem RaceStart.races (start : RaceStart db workspaceId secretId triggers) :
    Races workspaceId secretId db.Knows (triggers.map (·.uuids)) 0
      (TriggerPool.start db workspaceId secretId triggers) := by
  let stages : List TriggerStage := triggers.map fun _ => .requiring
  have none (counts : TriggerStage → Bool) (not : counts .requiring = false) :
      stages.countP counts = 0 := by
    rw [List.countP_map, List.countP_eq_zero]
    intro trigger _
    exact Bool.eq_false_iff.mp not
  have contends (phase : RacePhase) index thread stage uuids
      (found : (TriggerPool.start db workspaceId secretId triggers).threads[index]? = some thread)
      (staged : stages[index]? = some stage)
      (drawn : (triggers.map (·.uuids))[index]? = some uuids) :
      Contends workspaceId secretId db.Knows phase db index uuids thread stage := by
    rw [TriggerPool.start, List.getElem?_map, Option.map_eq_some_iff] at found
    rw [List.getElem?_map, Option.map_eq_some_iff] at staged drawn
    obtain ⟨trigger, here, rfl⟩ := found
    obtain ⟨_, _, rfl⟩ := staged
    obtain ⟨again, same, rfl⟩ := drawn
    cases here.symm.trans same
    have inside := List.mem_of_getElem? here
    refine ⟨leaves_triggerRotation trigger.hour (start.callers trigger inside), ⟨rfl, rfl⟩, ?_⟩
    exact fun _ => start.unused trigger inside
  have lengths {α : Type} (first : RotationTrigger → α) :
      (triggers.map first).length =
        (TriggerPool.start db workspaceId secretId triggers).threads.length := by
    rw [List.length_map]
    exact (List.length_map _).symm
  by_cases inactive : db.Inactive secretId
  · exact ⟨.free, stages, start.ready, lengths _, lengths _, contends .free,
      ⟨inactive, none _ rfl⟩, none _ rfl⟩
  · obtain ⟨rotationId, only⟩ := start.onlyActive inactive
    have owned : db.Owned workspaceId secretId :=
      fun row inside same isActive => (start.earlier row inside same isActive).1
    exact ⟨.settled rotationId, stages, start.ready, lengths _, lengths _,
      contends (.settled rotationId), ⟨only, owned, Or.inr (none _ rfl)⟩, none _ rfl⟩

section Returned

variable {known : String → Prop} {draws : List (List Uuid)} {misses : Nat} {pool : TriggerPool}
  {phase : RacePhase} {stages : List TriggerStage}

/-- All requests return the one active rotation exactly if no request has failed. -/
theorem Race.collapses_iff_unfailed
    (race : Race workspaceId secretId known draws phase misses pool stages)
    (ended : ∀ thread ∈ pool.threads, (TriggerThread.response thread).isSome = true)
    (any : pool.threads ≠ []) :
    pool.Collapses secretId ↔ stages.countP TriggerStage.isFailed = 0 := by
  obtain ⟨winner, rfl, returned⟩ := race.allReturned ended any
  rw [List.countP_eq_zero]
  constructor
  · intro given stage inside failed
    obtain ⟨rotationId, _, all⟩ := given
    obtain ⟨index, staged⟩ := List.mem_iff_getElem?.mp inside
    obtain ⟨thread, _, found, outcome, _, _⟩ := race.returned ended staged
    obtain ⟨status, response⟩ := all thread (List.mem_of_getElem? found)
    rw [response] at outcome
    cases stage with
    | failed => cases outcome
    | _ => cases failed
  · intro unfailed
    refine ⟨winner, race.rows.1, fun thread inside => ?_⟩
    obtain ⟨index, found⟩ := List.mem_iff_getElem?.mp inside
    obtain ⟨bound, _⟩ := List.getElem?_eq_some_iff.mp found
    have staged : stages[index]? = some _ := List.getElem?_eq_getElem (race.length.symm ▸ bound)
    obtain ⟨same, _, here, outcome, _, _⟩ := race.returned ended staged
    cases found.symm.trans here
    have inStages := List.mem_of_getElem? staged
    obtain ⟨status, isFound⟩ | isCommitted | isFailed := returned _ inStages
    · rw [isFound] at outcome
      exact ⟨status, outcome.symm⟩
    · rw [isCommitted] at outcome
      exact ⟨.pendingApproval, outcome.symm⟩
    · rw [isFailed] at inStages
      exact absurd rfl (unfailed .failed inStages)

/-- One request fails for each check that misses after the first. -/
theorem Race.collapses_iff (race : Race workspaceId secretId known draws phase misses pool stages)
    (ended : ∀ thread ∈ pool.threads, (TriggerThread.response thread).isSome = true)
    (any : pool.threads ≠ []) : pool.Collapses secretId ↔ misses ≤ 1 := by
  obtain ⟨winner, rfl, returned⟩ := race.allReturned ended any
  obtain ⟨_, _, counts⟩ := race.rows
  have total := countP_missed returned
  rw [race.counted] at total counts
  rw [race.collapses_iff_unfailed ended any]
  omega

end Returned

/-- Interleaved requests for one secret all return its one active rotation with its four steps
exactly if at most one of them looks for an active rotation while there is none. -/
theorem collapses_iff_one_misses (start : RaceStart db workspaceId secretId triggers)
    (any : triggers ≠ []) (actions : List TriggerAction)
    (ended : ∀ thread ∈ (runActions TriggerAction.step actions
      (TriggerPool.start db workspaceId secretId triggers)).threads,
        (TriggerThread.response thread).isSome = true) :
    (runActions TriggerAction.step actions
      (TriggerPool.start db workspaceId secretId triggers)).Collapses secretId ↔
        ((visits TriggerAction.step actions
          (TriggerPool.start db workspaceId secretId triggers)).countP
            fun visit => visit.1.misses visit.2) ≤ 1 := by
  have races : Races workspaceId secretId db.Knows (triggers.map (·.uuids)) _
      (runActions TriggerAction.step actions _) := start.races.run start.draws
  rw [Nat.zero_add] at races
  obtain ⟨phase, stages, race⟩ := races
  refine race.collapses_iff ended fun none => any ?_
  have lengths := race.supplied
  rw [none, List.length_map] at lengths
  exact List.length_eq_zero_iff.mp lengths

end Outcome

section Example

/-- A secret without a rotation. -/
def rotatableSecret : Database :=
  { tenant 2 1 7 with users := [9], investigations := [], rotations := [], auditLog := [] }

/-- The text of the user 9. -/
def userText : String := "00000000-0000-0000-0000-000000000009"

/-- The driver encodes this text. -/
abbrev userCodec : UuidCodec := ⟨fun text => if text = userText then some 9 else none⟩

/-- A request of the user, with the identifiers that it draws. -/
def userTrigger (base : Nat) : RotationTrigger where
  claims := { sub := userText, workspaceId := 2, role := "admin" }
  hour := 3600
  uuids := (List.range 5).map (base + ·)

def twoTriggers : List RotationTrigger := [userTrigger 100, userTrigger 200]

def triggersAfter (actions : List TriggerAction) : TriggerPool :=
  runActions (@TriggerAction.step plainDigest userCodec) actions
    (.start rotatableSecret 2 1 twoTriggers)

theorem twoTriggers_start : @RaceStart userCodec rotatableSecret 2 1 twoTriggers := by
  refine @RaceStart.mk userCodec _ _ _ _ ?_ ?_ ?_ ?_ ?_ ?_
  · constructor <;> simp [rotatableSecret, tenant, Database.empty, References, plainSecret]
  · exact ⟨plainSecret 2 1 "fingerprint", List.mem_singleton.mpr rfl, rfl, rfl⟩
  · exact fun _ inside => absurd inside List.not_mem_nil
  · decide +kernel
  · exact ⟨by decide, by decide⟩
  · exact fun _ _ _ _ =>
      ⟨fun _ inside => absurd inside List.not_mem_nil, fun _ inside => absurd inside List.not_mem_nil⟩

/-- The first request goes through before the second one arrives. -/
def oneAfterTheOther : List TriggerAction :=
  List.replicate 15 (.advance 0) ++ List.replicate 15 (.advance 1)

/-- The second request looks for a rotation before the first one arrives, and goes on after it. -/
def overlapping : List TriggerAction := List.replicate 2 (.advance 1) ++ oneAfterTheOther

/-- Two requests one after the other return one rotation. -/
theorem oneAfterTheOther_collapses : (triggersAfter oneAfterTheOther).Collapses 1 := by
  have ended : ∀ thread ∈ (triggersAfter oneAfterTheOther).threads,
      (TriggerThread.response thread).isSome = true := by
    apply List.all_eq_true.mp
    decide +kernel
  refine (@collapses_iff_one_misses plainDigest userCodec 2 1 rotatableSecret twoTriggers
    twoTriggers_start (List.cons_ne_nil _ _) oneAfterTheOther ended).mpr ?_
  decide +kernel

/-- The status code of a response that is an error. -/
def TriggerPool.errors (pool : TriggerPool) : List (Option Nat) :=
  pool.threads.map fun thread =>
    match TriggerThread.response thread with
    | some (.error raised) => some raised.statusCode
    | _ => none

/-- Of two requests that overlap, one raises an internal error. -/
theorem overlapping_fails :
    (∀ thread ∈ (triggersAfter overlapping).threads,
      (TriggerThread.response thread).isSome = true) ∧
      (triggersAfter overlapping).errors = [none, some 500] ∧
      ¬ (triggersAfter overlapping).Collapses 1 := by
  have errors : (triggersAfter overlapping).errors = [none, some 500] := by decide +kernel
  refine ⟨?_, errors, fun collapses => ?_⟩
  · apply List.all_eq_true.mp
    decide +kernel
  · obtain ⟨rotationId, _, all⟩ := collapses
    have failed : some 500 ∈ (triggersAfter overlapping).errors := by
      rw [errors]
      decide
    obtain ⟨thread, inside, error⟩ := List.mem_map.mp failed
    obtain ⟨status, response⟩ := all thread inside
    rw [response] at error
    cases error

end Example

end Sprawl
