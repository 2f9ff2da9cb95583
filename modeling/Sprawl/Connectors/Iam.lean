/-
This file gives the connector to IAM: the account, the calls, the scope of a principal and its keys.
-/

import Mathlib.Data.Finset.Basic
import Sprawl.Investigation.Builder

namespace Sprawl

section Names

/-- The text behind the first occurrence of a pattern. -/
def behindFirst (pattern : List Char) : List Char → Option (List Char)
  | [] => none
  | char :: rest =>
      if pattern.isPrefixOf (char :: rest) then some ((char :: rest).drop pattern.length)
      else behindFirst pattern rest

/-- This is `_extract_username`. -/
def extractUsername (arn : String) : Option String :=
  (behindFirst ":user/".toList arn.toList).map String.ofList

/-- The connector names this table `_ARN_TYPE_LABELS`. -/
def arnTypeLabels : List (String × String) :=
  [("s3", "S3 Bucket"), ("ec2", "EC2 Resource"), ("rds", "RDS Instance"),
    ("dynamodb", "DynamoDB Table"), ("lambda", "Lambda Function"), ("ecs", "ECS Service"),
    ("secretsmanager", "Secrets Manager Secret"), ("ssm", "SSM Parameter"),
    ("iam", "IAM Resource"), ("sts", "STS Resource"), ("logs", "CloudWatch Log Group"),
    ("sns", "SNS Topic"), ("sqs", "SQS Queue"), ("kms", "KMS Key")]

/-- The third part of an ARN is its service. -/
def arnService (arn : String) : String := (arn.splitOn ":").getD 2 "unknown"

/-- This is `_arn_to_resource_ref`. A label shows what stands behind the last slash. The services of
AWS have names in ASCII, so their upper case is that of ASCII. -/
def arnToResourceRef (arn : String) : ResourceRef where
  provider := "aws"
  resourceType := arnService arn
  arn := arn
  label := (arnTypeLabels.lookup (arnService arn)).getD (arnService arn).toUpper ++ ": " ++
    (((arn.splitOn ":").getLastD arn).splitOn "/").getLastD ""
  environment := "unknown"

end Names

section Policies

/-- A policy has one item in the place of a list of one. -/
inductive OneOrMany (α : Type) where
  | one (item : α)
  | many (items : List α)

def OneOrMany.items {α : Type} : OneOrMany α → List α
  | .one item => [item]
  | .many items => items

/-- A statement without a `Resource` has a `NotResource`. -/
structure PolicyStatement where
  effect : String
  resource : Option (OneOrMany String)

/-- A policy document as IAM keeps it. -/
structure PolicyDocument where
  statement : Option (OneOrMany PolicyStatement)

/-- The entries of a statement that allows. -/
def PolicyStatement.allowed (statement : PolicyStatement) : List String :=
  if statement.effect = "Allow" then statement.resource.elim [] OneOrMany.items else []

/-- This is `_resources_from_document`. -/
def resourcesFromDocument (document : PolicyDocument) : List String :=
  (document.statement.elim [] OneOrMany.items).flatMap PolicyStatement.allowed

/-- The distinct entries other than the wildcard. A set has no order of its own. -/
def namedResources (entries : List String) : List String := entries.dedup.filter (· ≠ "*")

/-- A managed policy has versions, and one of them is the default. -/
structure ManagedPolicy where
  arn : String
  defaultVersionId : String
  versions : List (String × PolicyDocument)

/-- A list call returns at least one page. -/
structure Pages (α : Type) where
  first : List α
  later : List (List α)

def Pages.toList {α : Type} (pages : Pages α) : List (List α) := pages.first :: pages.later

def Pages.items {α : Type} (pages : Pages α) : List α := pages.toList.flatten

/-- The policies of a user, in the pages in which IAM lists them. -/
structure IamUser where
  name : String
  attached : Pages String
  inlined : Pages (String × PolicyDocument)

structure IamAccount where
  users : List IamUser
  policies : List ManagedPolicy

/-- The calls that `enumerate_scope` makes. Building the client assumes the role. -/
inductive IamCall where
  | client
  | listAttachedUserPolicies (username : String) (page : Nat)
  | getPolicy (arn : String)
  | getPolicyVersion (arn versionId : String)
  | listUserPolicies (username : String) (page : Nat)
  | getUserPolicy (username policyName : String)
  deriving DecidableEq, Repr

/-- An account behind calls of which some raise. -/
structure IamService where
  account : IamAccount
  failure : IamCall → Option String

namespace IamService

variable (service : IamService)

/-- A call raises, or IAM answers it. -/
def call {α : Type} (made : IamCall) (answer : Except String α) : Except String α :=
  match service.failure made with
  | some raised => .error raised
  | none => answer

/-- What does not exist raises. -/
def orNoSuchEntity {α : Type} (found : Option α) : Except String α :=
  match found with
  | some value => .ok value
  | none => .error "NoSuchEntity"

def user? (username : String) : Option IamUser :=
  service.account.users.find? (·.name = username)

def policy? (arn : String) : Option ManagedPolicy :=
  service.account.policies.find? (·.arn = arn)

def getPolicy (arn : String) : Except String String :=
  service.call (.getPolicy arn) (orNoSuchEntity ((service.policy? arn).map (·.defaultVersionId)))

def getPolicyVersion (arn versionId : String) : Except String PolicyDocument :=
  service.call (.getPolicyVersion arn versionId)
    (orNoSuchEntity ((service.policy? arn).bind fun policy => policy.versions.lookup versionId))

/-- The default version of a managed policy. -/
def managedDocument (arn : String) : Except String PolicyDocument := do
  let versionId ← service.getPolicy arn
  service.getPolicyVersion arn versionId

/-- The call answers with the document of the listed policy. -/
def inlinedDocument (username : String) (listed : String × PolicyDocument) :
    Except String PolicyDocument :=
  service.call (.getUserPolicy username listed.1) (.ok listed.2)

/-- The resources of a document that could be read, and none of another. -/
def resourcesOf (document : Except String PolicyDocument) : List String :=
  match document with
  | .ok document => resourcesFromDocument document
  | .error _ => []

/-- This is `_resources_from_managed_policy`. -/
def resourcesFromManagedPolicy (arn : String) : List String :=
  resourcesOf (service.managedDocument arn)

/-- This is `_resources_from_inline_policy`. -/
def resourcesFromInlinePolicy (username : String) (listed : String × PolicyDocument) :
    List String :=
  resourcesOf (service.inlinedDocument username listed)

/-- The pages are fetched in turn, and the resources of each item of a page are collected. -/
def collectPages {α : Type} (fetch : Nat → IamCall) (resources : α → List String) :
    Nat → List (List α) → Except String (List String)
  | _, [] => .ok []
  | page, items :: rest => do
      service.call (fetch page) (.ok ())
      let others ← collectPages fetch resources (page + 1) rest
      return items.flatMap resources ++ others

/-- The entries of all policies of a user. -/
def collectUser (username : String) : Except String (List String) := do
  match service.user? username with
  | none =>
      service.call (.listAttachedUserPolicies username 0) (.ok ())
      .error "NoSuchEntity"
  | some user => do
      let managed ← service.collectPages (.listAttachedUserPolicies username)
        service.resourcesFromManagedPolicy 0 user.attached.toList
      let inlined ← service.collectPages (.listUserPolicies username)
        (service.resourcesFromInlinePolicy username) 0 user.inlined.toList
      return managed ++ inlined

/-- This is the body of the `try` in `enumerate_scope`. -/
def scopeOf (principal : PrincipalRef) : Except String (List ResourceRef) := do
  service.call .client (.ok ())
  match extractUsername principal.arn with
  | none => return []
  | some username =>
      if username = "" then return []
      else
        let entries ← service.collectUser username
        return (namedResources entries).map arnToResourceRef

/-- This is `enumerate_scope`. -/
def enumerateScope (principal : PrincipalRef) : List ResourceRef :=
  match service.scopeOf principal with
  | .ok resources => resources
  | .error _ => []

end IamService

end Policies

section Keys

/-- The access keys of each user. Whether a key is active is not kept here. -/
structure IamKeys where
  users : String → Option (Finset String)

/-- An access key with its secret, as IAM returns it once. -/
structure AccessKey where
  id : String
  secret : String

namespace IamKeys

variable (state : IamKeys)

def withKeys (username : String) (keys : Finset String) : IamKeys where
  users := Function.update state.users username (some keys)

/-- No user has the key. -/
def Fresh (key : String) : Prop :=
  ∀ username keys, state.users username = some keys → key ∉ keys

/-- IAM adds the key to an existing user. -/
def createAccessKey (username : String) (key : AccessKey) : Except String AccessKey × IamKeys :=
  match state.users username with
  | some keys => (.ok key, state.withKeys username (insert key.id keys))
  | none => (.error "NoSuchEntity", state)

/-- IAM answers only for the user that owns the key. -/
def ownKey (username key : String) : Except String (Finset String) :=
  match state.users username with
  | some keys => if key ∈ keys then .ok keys else .error "NoSuchEntity"
  | none => .error "NoSuchEntity"

def updateAccessKey (username key : String) : Except String Unit × IamKeys :=
  ((state.ownKey username key).map fun _ => (), state)

def deleteAccessKey (username key : String) : Except String Unit × IamKeys :=
  match state.ownKey username key with
  | .ok keys => (.ok (), state.withKeys username (keys.erase key))
  | .error raised => (.error raised, state)

/-- This is `create_credential`. IAM chooses the key. -/
def createCredential (issue : IamKeys → AccessKey) (principal : PrincipalRef) :
    Except String CredentialMaterial × IamKeys :=
  match extractUsername principal.arn with
  | none => (.error ("Cannot extract IAM username from ARN: " ++ principal.arn), state)
  | some username =>
      if username = "" then
        (.error ("Cannot extract IAM username from ARN: " ++ principal.arn), state)
      else
        let created := state.createAccessKey username (issue state)
        (created.1.map fun key => {
          credentialId := key.id
          accessKeyId := some key.id
          secretAccessKey := some key.secret }, created.2)

/-- This is `disable_credential`. -/
def disableCredential (credential : CredentialRef) : Except String Unit × IamKeys :=
  if credential.metadata.username = "" then
    (.error "credential.metadata must include 'username' for IAM disable", state)
  else state.updateAccessKey credential.metadata.username credential.credentialId

/-- This is `delete_credential`. -/
def deleteCredential (credential : CredentialRef) : Except String Unit × IamKeys :=
  if credential.metadata.username = "" then
    (.error "credential.metadata must include 'username' for IAM delete", state)
  else state.deleteAccessKey credential.metadata.username credential.credentialId

end IamKeys

/-- The connectors of a job whose cloud is IAM. Its store is any store. -/
def iamConnectors {σ : Type} (issue : IamKeys → AccessKey) (store : Connectors σ) :
    Connectors (IamKeys × σ) where
  store := store.store
  cloud := true
  answer
    | .createCredential principal, world =>
        let answered := world.1.createCredential issue principal
        (answered.1, answered.2, world.2)
    | .disableCredential credential, world =>
        let answered := world.1.disableCredential credential
        (answered.1, answered.2, world.2)
    | .deleteCredential credential, world =>
        let answered := world.1.deleteCredential credential
        (answered.1, answered.2, world.2)
    | .writeNewVersion ref value, world =>
        let answered := store.answer (.writeNewVersion ref value) world.2
        (answered.1, world.1, answered.2)
    | .verifyStore ref, world =>
        let answered := store.answer (.verifyStore ref) world.2
        (answered.1, world.1, answered.2)

end Keys

end Sprawl
