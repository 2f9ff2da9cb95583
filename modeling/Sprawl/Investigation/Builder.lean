/-
This file gives the builder of the blast-radius graph.
-/

import Mathlib.Data.List.Infix
import Sprawl.Investigation.State

namespace Sprawl

/-- A cloud resource that a principal can reach. -/
structure ResourceRef where
  provider : String
  resourceType : String
  arn : String
  label : String
  environment : String := "unknown"
  deriving DecidableEq, Repr

/-- The result of a store check, with the metadata that the builder copies. -/
structure StoreVerification extends VerifyResult where
  metadata : Document := []

/-- `{**base, **extra}` keeps the place of a key that both have, and the later value. -/
def mergeDocument (base extra : Document) : Document :=
  (base.map fun field => (field.1, (extra.lookup field.1).getD field.2)) ++
    extra.filter fun field => (base.lookup field.1).isNone

/-- The builder names these `_HIGH_PRIV_SERVICES`. -/
def highPrivServices : List String := ["iam", "rds", "secretsmanager", "kms", "sts"]

def ResourceRef.isHighPriv (resource : ResourceRef) : Bool :=
  highPrivServices.contains (lowerText resource.resourceType)

/-- `pattern in text` -/
def occursIn (pattern text : String) : Bool := decide (pattern.toList <:+: text.toList)

/-- This is `_infer_env`. -/
def inferEnv (resource : ResourceRef) : String :=
  if resource.environment ≠ "" ∧ resource.environment ≠ "unknown" then resource.environment
  else (["prod", "staging", "stg", "dev", "test"].find? fun env =>
    occursIn env (lowerText resource.arn)).getD "unknown"

/-- The identifiers, the environment of the secret, and the values that `uuid4` returns in turn. -/
structure BlastRadiusBuilder where
  secretId : Uuid
  workspaceId : Uuid
  environment : String
  uuid4 : Nat → Uuid

namespace BlastRadiusBuilder

variable (builder : BlastRadiusBuilder)

/-- This is `_make_node`. It takes the value that `uuid4` returns after the ones drawn before. -/
def makeNode (drawn : Nat) (kind : NodeKind) (label environment : String) (attrs : Document) :
    GraphNodeData where
  id := builder.uuid4 drawn
  secretId := builder.secretId
  workspaceId := builder.workspaceId
  kind := kind
  label := label
  environment := environment
  attrs := attrs

/-- This is `_make_edge`. -/
def makeEdge (drawn : Nat) (src dst : Uuid) (kind : EdgeKind) (confidence : Confidence) :
    GraphEdgeData where
  id := builder.uuid4 drawn
  secretId := builder.secretId
  workspaceId := builder.workspaceId
  srcNodeId := src
  dstNodeId := dst
  kind := kind
  confidence := confidence

def secretNode : GraphNodeData :=
  builder.makeNode 0 .secret ("secret:" ++ toString builder.secretId) builder.environment
    [("secret_id", .uuid builder.secretId)]

/-- The label is what stands behind the last colon of the ARN. -/
def principalNode (principal : PrincipalRef) : GraphNodeData :=
  builder.makeNode 1 .principal ((principal.arn.splitOn ":").getLastD principal.arn)
    builder.environment
    [("arn", .str principal.arn), ("provider", .str principal.provider),
      ("principal_type", .str principal.principalType), ("account_id", .str principal.accountId)]

def resourceNode (drawn : Nat) (resource : ResourceRef) : GraphNodeData :=
  builder.makeNode drawn .resource resource.label (inferEnv resource)
    [("arn", .str resource.arn), ("resource_type", .str resource.resourceType),
      ("provider", .str resource.provider), ("high_privilege", .bool resource.isHighPriv)]

/-- Each resource gets a node, and an edge from the principal. -/
def resourceParts (principal : Uuid) : Nat → List ResourceRef → List (GraphNodeData × GraphEdgeData)
  | _, [] => []
  | drawn, resource :: rest =>
      (builder.resourceNode drawn resource,
        builder.makeEdge (drawn + 1) principal (builder.uuid4 drawn) .grantsAccessTo
          (if resource.isHighPriv then .high else .medium)) ::
        resourceParts principal (drawn + 2) rest

/-- A checked store gets a node, and an edge from the secret. -/
def storeParts (drawn : Nat) : Option StoreVerification → List (GraphNodeData × GraphEdgeData)
  | none => []
  | some verified =>
      [(builder.makeNode drawn .storeEntry "vault" builder.environment
          (mergeDocument [("store_type", .str "vault"), ("readable", .bool verified.success)]
            verified.metadata),
        builder.makeEdge (drawn + 1) builder.secretNode.id (builder.uuid4 drawn) .storedIn
          (if verified.success then .high else .low))]

/-- The coverage counts the resources as known consumers. -/
def coverageOf (resources : List ResourceRef) : CoverageReport where
  knownConsumers := resources.length
  unknownConsumers := 0
  confidence := if 5 < resources.length then .high else if 1 < resources.length then .medium else .low

/-- This is `BlastRadiusBuilder.build`. -/
def build (principal : PrincipalRef) (resources : List ResourceRef)
    (storeVerify : Option StoreVerification) :
    List GraphNodeData × List GraphEdgeData × CoverageReport :=
  let secret := builder.secretNode
  let principalNode := builder.principalNode principal
  let isPrincipal := builder.makeEdge 2 secret.id principalNode.id .isPrincipal .high
  let parts := builder.resourceParts principalNode.id 3 resources ++
    builder.storeParts (3 + 2 * resources.length) storeVerify
  (secret :: principalNode :: parts.map (·.1), isPrincipal :: parts.map (·.2), coverageOf resources)

end BlastRadiusBuilder

end Sprawl
