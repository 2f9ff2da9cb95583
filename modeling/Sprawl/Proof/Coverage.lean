/-
This file proves when the coverage of an investigation tells that its discovery is incomplete.
-/

import Sprawl.Connectors.Iam
import Sprawl.Effect.Raising
import Sprawl.Proof.PrivilegeCounts

namespace Sprawl

open Effect

namespace IamService

variable {service : IamService}

section Calls

variable {α : Type}

theorem call_eq_ok {made : IamCall} {answer : Except String α} {value : α} :
    service.call made answer = .ok value ↔ service.failure made = none ∧ answer = .ok value := by
  rw [call]
  cases service.failure made <;> simp

theorem orNoSuchEntity_eq_ok {found : Option α} {value : α} :
    orNoSuchEntity found = .ok value ↔ found = some value := by
  cases found <;> simp [orNoSuchEntity]

/-- The pages are collected exactly if no call for one of them raises. -/
theorem collectPages_eq_ok {fetch : Nat → IamCall} {resources : α → List String} {page : Nat}
    {pages : List (List α)} {entries : List String} :
    service.collectPages fetch resources page pages = .ok entries ↔
      (∀ index < pages.length, service.failure (fetch (page + index)) = none) ∧
        entries = pages.flatten.flatMap resources := by
  induction pages generalizing page entries with
  | nil => simp [collectPages, eq_comm]
  | cons items rest ih =>
      rw [collectPages, bind_eq_ok]
      simp only [bind_eq_ok, call_eq_ok, ih]
      constructor
      · intro given
        obtain ⟨_, ⟨first, _⟩, others, ⟨later, rfl⟩, joined⟩ := given
        cases joined
        refine ⟨?_, by rw [List.flatten_cons, List.flatMap_append]⟩
        intro index inside
        cases index with
        | zero => exact first
        | succ index =>
            have next := later index (Nat.lt_of_succ_lt_succ inside)
            rwa [Nat.add_right_comm, Nat.add_assoc] at next
      · intro given
        obtain ⟨every, rfl⟩ := given
        refine ⟨(), ⟨every 0 (Nat.succ_pos _), trivial⟩, _, ⟨fun index inside => ?_, rfl⟩, ?_⟩
        · have next := every (index + 1) (Nat.succ_lt_succ inside)
          rwa [← Nat.add_assoc, Nat.add_right_comm] at next
        · rw [List.flatten_cons, List.flatMap_append]
          rfl

end Calls

/-- The calls for a managed policy do not raise. -/
def ReadsManaged (service : IamService) (arn : String) : Prop :=
  ∃ policy, service.policy? arn = some policy ∧
    (policy.versions.lookup policy.defaultVersionId).isSome = true ∧
      service.failure (.getPolicy arn) = none ∧
        service.failure (.getPolicyVersion arn policy.defaultVersionId) = none

/-- The calls for the policies of a user do not raise. -/
structure ReadsUser (service : IamService) (username : String) (user : IamUser) : Prop where
  known : service.user? username = some user
  listsAttached : ∀ page < user.attached.toList.length,
    service.failure (.listAttachedUserPolicies username page) = none
  listsInlined : ∀ page < user.inlined.toList.length,
    service.failure (.listUserPolicies username page) = none
  managed : ∀ arn ∈ user.attached.items, service.ReadsManaged arn
  inlined : ∀ listed ∈ user.inlined.items, service.failure (.getUserPolicy username listed.1) = none

/-- No call of `enumerate_scope` raises, and the principal is a user of the account. -/
def Reads (service : IamService) (principal : PrincipalRef) : Prop :=
  service.failure .client = none ∧ ∃ username user,
    extractUsername principal.arn = some username ∧ username ≠ "" ∧ service.ReadsUser username user

/-- `enumerate_scope` raised inside, found no name, or met a policy that it could not read. -/
inductive Incomplete (service : IamService) (principal : PrincipalRef) : Prop where
  | failed (raised : String) (scope : service.scopeOf principal = .error raised)
  | nameless (name : extractUsername principal.arn = none ∨ extractUsername principal.arn = some "")
  | managed (username : String) (user : IamUser) (arn raised : String)
      (named : extractUsername principal.arn = some username)
      (known : service.user? username = some user) (inside : arn ∈ user.attached.items)
      (unread : service.managedDocument arn = .error raised)
  | inlined (username : String) (user : IamUser) (listed : String × PolicyDocument)
      (raised : String) (named : extractUsername principal.arn = some username)
      (known : service.user? username = some user) (inside : listed ∈ user.inlined.items)
      (unread : service.inlinedDocument username listed = .error raised)

section Reading

/-- A result that is no value is an exception. -/
theorem exists_error_iff {ε α : Type} {result : Except ε α} :
    (∃ raised, result = .error raised) ↔ ¬ ∃ value, result = .ok value := by
  cases result <;> simp

theorem managedDocument_ok_iff {arn : String} :
    (∃ document, service.managedDocument arn = .ok document) ↔ service.ReadsManaged arn := by
  simp only [managedDocument, bind_eq_ok, getPolicy, getPolicyVersion, call_eq_ok,
    orNoSuchEntity_eq_ok, ReadsManaged]
  constructor
  · intro given
    obtain ⟨document, versionId, ⟨first, found⟩, second, read⟩ := given
    obtain ⟨policy, known, rfl⟩ := Option.map_eq_some_iff.mp found
    rw [known] at read
    exact ⟨policy, known, Option.isSome_iff_exists.mpr ⟨document, read⟩, first, second⟩
  · intro given
    obtain ⟨policy, known, versioned, first, second⟩ := given
    obtain ⟨document, read⟩ := Option.isSome_iff_exists.mp versioned
    refine ⟨document, policy.defaultVersionId, ⟨first, ?_⟩, second, ?_⟩
    · rw [known]
      rfl
    · rw [known]
      exact read

theorem inlinedDocument_ok_iff {username : String} {listed : String × PolicyDocument} :
    (∃ document, service.inlinedDocument username listed = .ok document) ↔
      service.failure (.getUserPolicy username listed.1) = none := by
  simp [inlinedDocument, call_eq_ok]

/-- The entries of a user are collected exactly if the user is known and the lists are read. -/
theorem collectUser_eq_ok {username : String} {entries : List String} :
    service.collectUser username = .ok entries ↔ ∃ user, service.user? username = some user ∧
      (∀ page < user.attached.toList.length,
        service.failure (.listAttachedUserPolicies username page) = none) ∧
      (∀ page < user.inlined.toList.length,
        service.failure (.listUserPolicies username page) = none) ∧
      entries = user.attached.items.flatMap service.resourcesFromManagedPolicy ++
        user.inlined.items.flatMap (service.resourcesFromInlinePolicy username) := by
  rw [collectUser]
  cases known : service.user? username with
  | none =>
      simp only [reduceCtorEq, false_and, exists_false, iff_false]
      intro collected
      obtain ⟨_, _, raised⟩ := bind_eq_ok.mp collected
      cases raised
  | some user =>
      simp only [bind_eq_ok, collectPages_eq_ok, Nat.zero_add, Option.some.injEq, exists_eq_left']
      constructor
      · intro given
        obtain ⟨_, ⟨attached, rfl⟩, _, ⟨inlined, rfl⟩, joined⟩ := given
        cases joined
        exact ⟨attached, inlined, rfl⟩
      · intro given
        obtain ⟨attached, inlined, rfl⟩ := given
        exact ⟨_, ⟨attached, rfl⟩, _, ⟨inlined, rfl⟩, rfl⟩

/-- What `enumerate_scope` finds where nothing raises inside. -/
theorem scopeOf_eq_ok {principal : PrincipalRef} {username : String}
    {resources : List ResourceRef} (named : extractUsername principal.arn = some username)
    (present : username ≠ "") :
    service.scopeOf principal = .ok resources ↔ service.failure .client = none ∧
      ∃ entries, service.collectUser username = .ok entries ∧
        resources = (namedResources entries).map arnToResourceRef := by
  rw [scopeOf, named, bind_eq_ok]
  simp only [call_eq_ok, if_neg present, bind_eq_ok]
  constructor
  · intro given
    obtain ⟨_, ⟨client, _⟩, entries, collected, same⟩ := given
    cases same
    exact ⟨client, entries, collected, rfl⟩
  · intro given
    obtain ⟨client, entries, collected, rfl⟩ := given
    exact ⟨(), ⟨client, trivial⟩, entries, collected, rfl⟩

/-- The scope of a user whose documents can be read is complete. -/
theorem Reads.not_incomplete {principal : PrincipalRef} (reads : service.Reads principal) :
    ¬ service.Incomplete principal := by
  intro incomplete
  obtain ⟨client, username, user, named, present, read⟩ := reads
  cases incomplete with
  | failed raised scope =>
      obtain ⟨entries, collected⟩ : ∃ entries, service.collectUser username = .ok entries :=
        ⟨_, collectUser_eq_ok.mpr ⟨user, read.known, read.listsAttached, read.listsInlined, rfl⟩⟩
      have found := (scopeOf_eq_ok named present).mpr ⟨client, entries, collected, rfl⟩
      rw [found] at scope
      cases scope
  | nameless name =>
      rw [named] at name
      obtain none | empty := name
      · cases none
      · exact present (Option.some.inj empty)
  | managed other found arn raised same known inside unread =>
      obtain rfl : username = other := Option.some.inj (named.symm.trans same)
      obtain rfl : user = found := Option.some.inj (read.known.symm.trans known)
      exact exists_error_iff.mp ⟨raised, unread⟩
        (managedDocument_ok_iff.mpr (read.managed arn inside))
  | inlined other found listed raised same known inside unread =>
      obtain rfl : username = other := Option.some.inj (named.symm.trans same)
      obtain rfl : user = found := Option.some.inj (read.known.symm.trans known)
      exact exists_error_iff.mp ⟨raised, unread⟩
        (inlinedDocument_ok_iff.mpr (read.inlined listed inside))

/-- A complete scope has read all documents of a user. -/
theorem Reads.of_complete {principal : PrincipalRef} (complete : ¬ service.Incomplete principal) :
    service.Reads principal := by
  cases named : extractUsername principal.arn with
  | none => exact absurd (.nameless (Or.inl named)) complete
  | some username =>
      have present : username ≠ "" := by
        rintro rfl
        exact complete (.nameless (Or.inr named))
      have scans : ∃ resources, service.scopeOf principal = .ok resources := by
        by_contra none
        obtain ⟨raised, scope⟩ := exists_error_iff.mpr none
        exact complete (.failed raised scope)
      obtain ⟨resources, scope⟩ := scans
      obtain ⟨client, entries, collected, _⟩ := (scopeOf_eq_ok named present).mp scope
      obtain ⟨user, known, listsAttached, listsInlined, _⟩ := collectUser_eq_ok.mp collected
      refine ⟨client, username, user, named, present, known, listsAttached, listsInlined, ?_, ?_⟩
      · intro arn inside
        apply managedDocument_ok_iff.mp
        by_contra none
        obtain ⟨raised, failed⟩ := exists_error_iff.mpr none
        exact complete (.managed username user arn raised named known inside failed)
      · intro listed inside
        apply inlinedDocument_ok_iff.mp
        by_contra none
        obtain ⟨raised, failed⟩ := exists_error_iff.mpr none
        exact complete (.inlined username user listed raised named known inside failed)

/-- The scope is incomplete exactly if a call raises or the principal is no user of the account. -/
theorem incomplete_iff {principal : PrincipalRef} :
    service.Incomplete principal ↔ ¬ service.Reads principal :=
  ⟨fun incomplete reads => reads.not_incomplete incomplete,
    fun unread => by_contra fun complete => unread (.of_complete complete)⟩

end Reading

/-- The answers of a blast_radius node whose connector works on this service. -/
def answers (service : IamService) (context : SecretContext)
    (storeVerify : Option StoreVerification) (uuid4 : Nat → Uuid) : BlastRadiusAnswers where
  resources := some (service.enumerateScope context.principal)
  storeVerify := storeVerify
  uuid4 := uuid4

end IamService

section Coverage

variable (service : IamService) (context : SecretContext) (storeVerify : Option StoreVerification)
  (uuid4 : Nat → Uuid)

/-- An incomplete discovery is reported with unknown consumers. -/
def HonestCoverage : Prop :=
  service.Incomplete context.principal →
    ∃ report, (blastRadiusGraph (service.answers context storeVerify uuid4) context).coverage =
      some report ∧ 0 < report.unknownConsumers

/-- The coverage is honest exactly if nothing is left out of it. -/
theorem honestCoverage_iff :
    HonestCoverage service context storeVerify uuid4 ↔ service.Reads context.principal := by
  constructor
  · intro honest
    by_contra unread
    obtain ⟨report, reported, unknown⟩ := honest (IamService.incomplete_iff.mpr unread)
    obtain rfl := Option.some.inj reported
    exact absurd unknown (Nat.lt_irrefl 0)
  · intro reads incomplete
    exact absurd reads (IamService.incomplete_iff.mp incomplete)

end Coverage

section Example

/-- A user with one attached policy. -/
def readerAccount : IamAccount where
  users := [{
    name := "alice"
    attached := { first := ["arn:aws:iam::123456789012:policy/reader"], later := [] }
    inlined := { first := [], later := [] } }]
  policies := [{
    arn := "arn:aws:iam::123456789012:policy/reader"
    defaultVersionId := "v1"
    versions := [("v1", { statement := some (.one {
      effect := "Allow"
      resource := some (.one "arn:aws:s3:::bucket") }) })] }]

/-- The investigation may not read managed policies. -/
def deniedService : IamService where
  account := readerAccount
  failure
    | .getPolicy _ => some "AccessDenied"
    | _ => none

/-- The policy of the user stays unread, and the coverage shows no unknown consumer. -/
theorem deniedService_dishonest : ¬ HonestCoverage deniedService userKey none id := by
  intro honest
  have incomplete : deniedService.Incomplete userKey.principal :=
    .managed "alice" _ "arn:aws:iam::123456789012:policy/reader" "AccessDenied" (by decide) rfl
      (by decide) rfl
  obtain ⟨report, reported, unknown⟩ := honest incomplete
  obtain rfl := Option.some.inj reported
  exact absurd unknown (Nat.lt_irrefl 0)

end Example

end Sprawl
