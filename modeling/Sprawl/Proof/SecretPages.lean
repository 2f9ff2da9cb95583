/-
This file proves when a client that reads the secrets page by page gets all of them.
-/

import Sprawl.Effect.Paging
import Sprawl.Proof.Isolation

namespace Sprawl

open Effect

section Order

/-- No two secrets are equal in both columns of the order. -/
def Untied (secrets : List Secret) : Prop :=
  ∀ first ∈ secrets, ∀ second ∈ secrets, first.severityScore = second.severityScore →
    first.lastSeen = second.lastSeen → first = second

theorem bySeverity_iff (first second : Secret) : bySeverity first second = true ↔
    match first.severityScore, second.severityScore with
    | some high, some low => low < high ∨ low = high ∧ second.lastSeen ≤ first.lastSeen
    | some _, none => True
    | none, some _ => False
    | none, none => second.lastSeen ≤ first.lastSeen := by
  rw [bySeverity]
  cases first.severityScore with
  | none => cases second.severityScore <;> simp [descending]
  | some high =>
      cases second.severityScore with
      | none => simp [descending]
      | some low =>
          simp only [Option.some.injEq, descending]
          split
          · next same => simp [same]
          · next other =>
              rw [decide_eq_true_iff]
              omega

theorem bySeverity_trans (first second third : Secret) (before : bySeverity first second = true)
    (behind : bySeverity second third = true) : bySeverity first third = true := by
  rw [bySeverity_iff] at *
  revert before behind
  cases first.severityScore <;> cases second.severityScore <;> cases third.severityScore <;>
    simp only <;> grind

theorem bySeverity_total (first second : Secret) :
    (bySeverity first second || bySeverity second first) = true := by
  rw [Bool.or_eq_true, bySeverity_iff, bySeverity_iff]
  cases first.severityScore <;> cases second.severityScore <;> simp only <;> grind

theorem bySeverity_antisymm {first second : Secret} (before : bySeverity first second = true)
    (behind : bySeverity second first = true) :
    first.severityScore = second.severityScore ∧ first.lastSeen = second.lastSeen := by
  rw [bySeverity_iff] at *
  revert before behind
  cases first.severityScore <;> cases second.severityScore <;>
    simp only [Option.some.injEq, true_and, reduceCtorEq] <;> grind

/-- The rows of a table in an order that `ORDER BY` allows. -/
structure OrderedBySeverity (secrets rows : List Secret) : Prop where
  perm : rows.Perm secrets
  ordered : rows.Pairwise fun first second => bySeverity first second = true

/-- Secrets without ties have one order. -/
theorem orderedBySeverity_iff {secrets rows : List Secret} (untied : Untied secrets) :
    OrderedBySeverity secrets rows ↔ rows = secrets.mergeSort bySeverity := by
  have sorted : (secrets.mergeSort bySeverity).Pairwise
      fun first second => bySeverity first second = true :=
    List.pairwise_mergeSort bySeverity_trans bySeverity_total secrets
  have perm : (secrets.mergeSort bySeverity).Perm secrets := List.mergeSort_perm secrets bySeverity
  constructor
  · intro given
    refine List.Perm.eq_of_pairwise ?_ given.ordered sorted (given.perm.trans perm.symm)
    intro first second inFirst inSecond before behind
    obtain ⟨score, seen⟩ := bySeverity_antisymm before behind
    exact untied first (given.perm.mem_iff.mp inFirst) second (perm.mem_iff.mp inSecond) score seen
  · rintro rfl
    exact ⟨perm, sorted⟩

end Order

section Client

/-- A client reads the data and the total of a page from the body of a response. -/
def Response.page : Response → Option (Page Json)
  | .success _ (.obj fields) =>
      match fields.lookup "data", fields.lookup "meta" with
      | some (.arr items), some (.obj counts) =>
          match counts.lookup "total" with
          | some (.int total) => some { items, total := total.toNat }
          | _ => none
      | _, _ => none
  | _ => none

theorem pageEnvelope_page (data : List Json) (total : Nat) (limit offset : Int) :
    (Response.success 200 (pageEnvelope data total limit offset)).page = some ⟨data, total⟩ := rfl

variable [Sha256] [UuidCodec] (db : Database) (around : Surroundings) (claims : TokenClaims)
  (workspaceId : Uuid) (limit : Nat)

/-- The pages of a list route at each offset, on rows that do not change. -/
def routePages (route : Int → Int → Route) (offset : Nat) : Option (Page Json) :=
  ((route limit offset).respond db around claims workspaceId).1.page

/-- The data of a secret in a list. -/
def Secret.listed (secret : Secret) : Json := .obj secret.out

/-- The client received every secret of the workspace once, and every page told how many there are. -/
structure AllSecrets (pages : List (Page Json)) : Prop where
  once : (pages.flatMap (·.items)).Perm ((db.secretsOf workspaceId).map Secret.listed)
  totals : ∀ page ∈ pages, page.total = (db.secretsOf workspaceId).length

variable {db around claims workspaceId limit}

theorem listSecrets_respond {offset : Nat} (fits : pageRefused limit offset = false)
    (uuids : List Uuid) :
    (listSecrets workspaceId limit offset).respond db uuids 200 =
      (.success 200 (pageEnvelope
        (((((db.secretsOf workspaceId).mergeSort bySeverity).drop offset).take limit).map
          Secret.listed)
        (min limit ((db.secretsOf workspaceId).length - offset)) limit offset), db) := by
  simp [listSecrets, pageOf, fits, query, issueApi, orRaise, ExceptT.run_bind, ApiSession.answer,
    ApiHandler.respond, Response.of, Database.apiAnswer, Except.map]
  rfl

omit [Sha256] [UuidCodec] in
/-- The route and its statements take an offset below 2^63. -/
theorem page_taken (bounded : limit ≤ 200) {offset : Nat} (fits : offset < 9223372036854775808) :
    validPage limit offset = true ∧ pageRefused limit offset = false := by
  simp only [validPage, pageRefused, Bool.and_eq_true, Bool.or_eq_false_iff, decide_eq_true_iff,
    decide_eq_false_iff_not]
  omega

/-- The first page of secrets reports its own length. -/
theorem firstPage_served (bounded : limit ≤ 200) :
    routePages db around claims workspaceId limit .listSecrets 0 = some
      ⟨(((db.secretsOf workspaceId).mergeSort bySeverity).take limit).map Secret.listed,
        min limit (db.secretsOf workspaceId).length⟩ := by
  obtain ⟨valid, within⟩ : validPage limit (0 : Nat) = true ∧ pageRefused limit (0 : Nat) = false :=
    page_taken bounded (by decide)
  rw [routePages, Route.respond, respondPage, if_pos valid, listSecrets_respond within,
    pageEnvelope_page]
  rfl

/-- The client stops behind the first page. -/
theorem secrets_paged (bounded : limit ≤ 200) :
    Paged (routePages db around claims workspaceId limit .listSecrets) limit 0
      [⟨(((db.secretsOf workspaceId).mergeSort bySeverity).take limit).map Secret.listed,
        min limit (db.secretsOf workspaceId).length⟩] := by
  refine .last (firstPage_served bounded) ?_
  rw [Nat.zero_add]
  exact Nat.min_le_left _ _

/-- The client gets all secrets exactly if they fit on one page. -/
theorem secrets_complete_iff (bounded : limit ≤ 200) :
    (∃ pages, Paged (routePages db around claims workspaceId limit .listSecrets) limit 0 pages ∧
        AllSecrets db workspaceId pages) ↔ (db.secretsOf workspaceId).length ≤ limit := by
  have paged : Paged (routePages db around claims workspaceId limit .listSecrets) limit 0 _ :=
    secrets_paged bounded
  constructor
  · rintro ⟨pages, read, all⟩
    obtain rfl := paged.unique read
    have total : min limit (db.secretsOf workspaceId).length = (db.secretsOf workspaceId).length :=
      all.totals _ (List.mem_singleton_self _)
    omega
  · intro few
    have whole : ((db.secretsOf workspaceId).mergeSort bySeverity).take limit =
        (db.secretsOf workspaceId).mergeSort bySeverity := by
      apply List.take_of_length_le
      rwa [List.length_mergeSort]
    refine ⟨_, paged, ?_, List.forall_mem_singleton.mpr (Nat.min_eq_right few)⟩
    rw [List.flatMap_singleton, whole]
    exact (List.mergeSort_perm _ _).map _

end Client

section Rotations

variable [Sha256] [UuidCodec] {db : Database} {around : Surroundings} {claims : TokenClaims}
  {workspaceId : Uuid} {limit : Nat}

/-- The rows of the list of rotations, in its order. -/
def Database.listedRotations (db : Database) (workspaceId : Uuid) : List Json :=
  (newestFirst (fun row : RotationRecord × Secret => row.1.createdAt)
    (db.joinSecrets (·.secretId) (db.rotationsOf workspaceId))).map
      fun row => .obj (row.1.row row.2)

omit [Sha256] [UuidCodec] in
/-- A reference to a secret joins with one row. -/
theorem joinSecrets_length {ρ : Type} {secretId : ρ → Uuid} {rows : List ρ} (valid : db.Valid)
    (known : ∀ row ∈ rows, secretId row ∈ db.secrets.map (·.id)) :
    (db.joinSecrets secretId rows).length = rows.length := by
  induction rows with
  | nil => rfl
  | cons row rest ih =>
      rw [List.forall_mem_cons] at known
      have one : (db.secrets.filter (·.id = secretId row)).length = 1 := by
        rw [← List.count_eq_one_of_mem valid.secretsUnique known.1, List.count,
          List.countP_map, List.countP_eq_length_filter]
        rfl
      have later := ih known.2
      rw [Database.joinSecrets] at later ⊢
      rw [List.flatMap_cons, List.length_append, later, List.length_map, one, List.length_cons,
        Nat.add_comm]

omit [Sha256] [UuidCodec] in
theorem listedRotations_length (valid : db.Valid) :
    (db.listedRotations workspaceId).length = (db.rotationsOf workspaceId).length := by
  have known : ∀ row ∈ db.rotationsOf workspaceId, row.secretId ∈ db.secrets.map (·.id) :=
    fun row inside => valid.rotationsOfSecrets row (List.mem_filter.mp inside).1
  rw [Database.listedRotations, List.length_map, newestFirst, List.length_mergeSort,
    joinSecrets_length valid known]

theorem rotations_served (valid : db.Valid) (bounded : limit ≤ 200) {offset : Nat}
    (fits : offset < 9223372036854775808) :
    routePages db around claims workspaceId limit .listRotations offset = some
      ⟨((db.listedRotations workspaceId).drop offset).take limit,
        (db.listedRotations workspaceId).length⟩ := by
  obtain ⟨page, within⟩ := page_taken bounded fits
  have responded : (listRotations workspaceId limit offset).respond db around.uuids 200 =
      (.success 200 (pageEnvelope (((db.listedRotations workspaceId).drop offset).take limit)
        (db.rotationsOf workspaceId).length limit offset), db) := by
    simp [listRotations, listPage, pageOf, within, query, issueApi, orRaise, ExceptT.run_bind,
      ApiSession.answer, ApiHandler.respond, Response.of, Database.apiAnswer, Except.map,
      Database.listedRotations]
  rw [routePages, Route.respond, respondPage, if_pos page, responded, pageEnvelope_page,
    listedRotations_length valid]

/-- A client that reads the rotations page by page gets all of them, in order. -/
theorem rotations_complete (valid : db.Valid) (positive : 0 < limit) (bounded : limit ≤ 200)
    (small : (db.rotationsOf workspaceId).length < 9223372036854775808) :
    ∃ pages, Paged (routePages db around claims workspaceId limit .listRotations) limit 0 pages ∧
      pages.flatMap (·.items) = db.listedRotations workspaceId ∧
      ∀ page ∈ pages, page.total = (db.listedRotations workspaceId).length := by
  have length : (db.listedRotations workspaceId).length = (db.rotationsOf workspaceId).length :=
    listedRotations_length valid
  have served : ∀ offset, offset = 0 ∨ offset < (db.listedRotations workspaceId).length →
      routePages db around claims workspaceId limit .listRotations offset = some
        ⟨((db.listedRotations workspaceId).drop offset).take limit,
          (db.listedRotations workspaceId).length⟩ :=
    fun offset inside => rotations_served valid bounded (by omega)
  exact Paged.complete positive served (Or.inl rfl)

end Rotations

section Example

/-- A secret that was seen at a time. -/
def seenSecret (id : Uuid) (lastSeen : Time) : Secret :=
  { plainSecret 2 id (toString id) with lastSeen }

/-- Two secrets, seen one after the other. -/
def twoSecrets : Database :=
  { Database.empty 0 with
    workspaces := [{ id := 2, kind := .standard, demoSessionId := none, expiresAt := none }]
    secrets := [seenSecret 3 1, seenSecret 4 2] }

theorem twoSecrets_untied : Untied (twoSecrets.secretsOf 2) := by
  unfold Untied
  decide

theorem twoSecrets_order :
    (twoSecrets.secretsOf 2).mergeSort bySeverity = [seenSecret 4 2, seenSecret 3 1] := by
  symm
  rw [← orderedBySeverity_iff twoSecrets_untied]
  refine ⟨?_, ?_⟩
  · exact List.Perm.swap (seenSecret 3 1) (seenSecret 4 2) []
  · decide

/-- With one secret a page the client stops behind the first page. -/
theorem twoSecrets_incomplete :
    Untied (twoSecrets.secretsOf 2) ∧ (twoSecrets.secretsOf 2).length = 2 ∧
      @Paged Json (@routePages plainDigest plainCodec twoSecrets ⟨[], 0⟩ viewerOfOne 2 1 .listSecrets)
        1 0 [⟨[(seenSecret 4 2).listed], 1⟩] ∧
      ¬ ∃ pages, @Paged Json (@routePages plainDigest plainCodec twoSecrets ⟨[], 0⟩ viewerOfOne 2 1
          .listSecrets) 1 0 pages ∧ AllSecrets twoSecrets 2 pages := by
  let _ := plainDigest
  let _ := plainCodec
  have paged : Paged (routePages twoSecrets ⟨[], 0⟩ viewerOfOne 2 1 .listSecrets) 1 0 _ :=
    secrets_paged (by decide)
  rw [twoSecrets_order] at paged
  have count : (twoSecrets.secretsOf 2).length = 2 := rfl
  refine ⟨twoSecrets_untied, count, paged, ?_⟩
  rintro ⟨pages, read, all⟩
  obtain rfl := paged.unique read
  have total := all.totals _ (List.mem_singleton_self _)
  rw [count] at total
  cases total

/-- The two secrets fit on a page of two. -/
theorem twoSecrets_complete :
    (∃ pages, @Paged Json (@routePages plainDigest plainCodec twoSecrets ⟨[], 0⟩ viewerOfOne 2 2
        .listSecrets) 2 0 pages ∧ AllSecrets twoSecrets 2 pages) ↔
      (twoSecrets.secretsOf 2).length ≤ 2 :=
  @secrets_complete_iff plainDigest plainCodec _ _ _ _ _ (by decide)

end Example

end Sprawl
