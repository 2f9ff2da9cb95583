/-
This file gives the connector to IAM with a log of its calls.
-/

import Sprawl.Connectors.Iam
import Sprawl.Effect.Logged

namespace Sprawl

open Effect

/-- The calls that read the scope of a user, and the one that creates a key. -/
inductive IamRequest where
  | read (made : IamCall)
  | createAccessKey (username : String)
  deriving DecidableEq, Repr

/-- The `UserName` of a call, where it has one. -/
def IamRequest.userName : IamRequest → Option String
  | .read .client => none
  | .read (.listAttachedUserPolicies username _) => some username
  | .read (.getPolicy _) => none
  | .read (.getPolicyVersion _ _) => none
  | .read (.listUserPolicies username _) => some username
  | .read (.getUserPolicy username _) => some username
  | .createAccessKey username => some username

namespace IamService

variable (service : IamService)

abbrev Scan : Type → Type := Logged IamRequest String

def scan {α : Type} (made : IamCall) (answer : Except String α) : Scan α :=
  Logged.call (.read made) (service.call made answer)

/-- This is `_resources_from_managed_policy`. -/
def scanManagedPolicy (arn : String) : Scan (List String) := do
  let document ← Logged.attempt do
    let versionId ← service.scan (.getPolicy arn)
      (orNoSuchEntity ((service.policy? arn).map (·.defaultVersionId)))
    service.scan (.getPolicyVersion arn versionId)
      (orNoSuchEntity ((service.policy? arn).bind fun policy => policy.versions.lookup versionId))
  return resourcesOf document

/-- This is `_resources_from_inline_policy`. -/
def scanInlinePolicy (username : String) (listed : String × PolicyDocument) :
    Scan (List String) := do
  let document ← Logged.attempt (service.scan (.getUserPolicy username listed.1) (.ok listed.2))
  return resourcesOf document

/-- A page is fetched, and then the policies on it. -/
def scanPages {α : Type} (fetch : Nat → IamCall) (policy : α → Scan (List String)) :
    Nat → List (List α) → Scan (List String)
  | _, [] => pure []
  | page, items :: rest => do
      service.scan (fetch page) (.ok ())
      let entries ← Logged.collect policy items
      let others ← scanPages fetch policy (page + 1) rest
      return entries ++ others

def scanUser (username : String) : Scan (List String) :=
  match service.user? username with
  | none => do
      service.scan (.listAttachedUserPolicies username 0) (.ok ())
      Logged.raise "NoSuchEntity"
  | some user => do
      let managed ← service.scanPages (.listAttachedUserPolicies username)
        service.scanManagedPolicy 0 user.attached.toList
      let inlined ← service.scanPages (.listUserPolicies username)
        (service.scanInlinePolicy username) 0 user.inlined.toList
      return managed ++ inlined

/-- This is the body of the `try` in `enumerate_scope`. -/
def scanScope (principal : PrincipalRef) : Scan (List ResourceRef) := do
  service.scan .client (.ok ())
  match extractUsername principal.arn with
  | none => return []
  | some username =>
      if username = "" then return []
      else
        let entries ← service.scanUser username
        return (namedResources entries).map arnToResourceRef

section Results

variable {service}

theorem scanManagedPolicy_result (arn : String) :
    (service.scanManagedPolicy arn).result = .ok (service.resourcesFromManagedPolicy arn) := rfl

theorem scanInlinePolicy_result (username : String) (listed : String × PolicyDocument) :
    (service.scanInlinePolicy username listed).result =
      .ok (service.resourcesFromInlinePolicy username listed) := rfl

theorem scanPages_result {α : Type} {fetch : Nat → IamCall} {policy : α → Scan (List String)}
    {resources : α → List String} (each : ∀ item, (policy item).result = .ok (resources item))
    (page : Nat) (pages : List (List α)) :
    (service.scanPages fetch policy page pages).result =
      service.collectPages fetch resources page pages := by
  induction pages generalizing page with
  | nil => rfl
  | cons items rest ih =>
      simp only [scanPages, collectPages, Logged.result_bind, Logged.result_collect each, ih]
      rfl

theorem scanUser_result (username : String) :
    (service.scanUser username).result = service.collectUser username := by
  rw [scanUser, collectUser]
  cases service.user? username with
  | none => rfl
  | some user =>
      simp only [Logged.result_bind, Logged.result_pure, scanPages_result scanManagedPolicy_result,
        scanPages_result (scanInlinePolicy_result username)]
      rfl

/-- The log changes nothing. -/
theorem scanScope_result (principal : PrincipalRef) :
    (service.scanScope principal).result = service.scopeOf principal := by
  rw [scanScope, scopeOf, Logged.result_bind]
  cases extractUsername principal.arn with
  | none => rfl
  | some username =>
      by_cases empty : username = ""
      · simp only [if_pos empty]
        rfl
      · simp only [if_neg empty, Logged.result_bind, scanUser_result]
        rfl

end Results

end IamService

namespace IamKeys

variable (state : IamKeys) (client : Except String Unit) (issue : IamKeys → AccessKey)

/-- This is `create_credential`. The client is built when the name is known. -/
def requestCredential (principal : PrincipalRef) : Logged IamRequest String CredentialMaterial :=
  match extractUsername principal.arn with
  | none => Logged.raise ("Cannot extract IAM username from ARN: " ++ principal.arn)
  | some username =>
      if username = "" then
        Logged.raise ("Cannot extract IAM username from ARN: " ++ principal.arn)
      else do
        Logged.call (.read .client) client
        let key ← Logged.call (.createAccessKey username)
          (state.createAccessKey username (issue state)).1
        return {
          credentialId := key.id
          accessKeyId := some key.id
          secretAccessKey := some key.secret }

theorem requestCredential_result (principal : PrincipalRef) :
    (state.requestCredential (.ok ()) issue principal).result =
      (state.createCredential issue principal).1 := by
  rw [requestCredential, createCredential]
  cases extractUsername principal.arn with
  | none => rfl
  | some username =>
      by_cases empty : username = ""
      · simp only [if_pos empty]
        rfl
      · simp only [if_neg empty]
        cases (state.createAccessKey username (issue state)).1 <;> rfl

end IamKeys

end Sprawl
