/-
This file gives the sandbox connectors and the plan that `trigger_rotation` inserts.
-/

import Sprawl.Rotation.System

namespace Sprawl

/-- The in-memory contents of the sandbox store. -/
abbrev SandboxStore := List (String × SecretValue)

def sandboxKeyId : String := "AKIA_SANDBOX_NEW_KEY_0001"

def sandboxSecret : String := "SANDBOX/Secret+AccessKey/notReal/forDemoOnly"

def sandboxVersion : String := "v-sandbox-2"

/-- This is `_maybe_fail`. -/
def maybeFail (failAt : Option String) (stepKind : String) : Except String Unit :=
  if failAt = some stepKind then .error ("Simulated failure at step kind '" ++ stepKind ++ "'")
  else .ok ()

/-- These are the sandbox connectors. An injected failure raises at the calls of its step kind. -/
def sandboxConnectors (failAt : Option String) : Connectors SandboxStore where
  store := true
  cloud := true
  answer
    | .createCredential _, store =>
        ((maybeFail failAt "provision").map fun _ =>
          { credentialId := sandboxKeyId, accessKeyId := some sandboxKeyId
            secretAccessKey := some sandboxSecret }, store)
    | .disableCredential _, store => (maybeFail failAt "revoke", store)
    | .deleteCredential _, store => (maybeFail failAt "revoke", store)
    | .writeNewVersion ref value, store =>
        match maybeFail failAt "distribute" with
        | .error text => (.error text, store)
        | .ok _ => (.ok { id := sandboxVersion, storeRef := ref }, (ref.path, value) :: store)
    | .verifyStore _, store =>
        ((maybeFail failAt "verify").map fun _ =>
          { success := true, message := "sandbox_store_verified" }, store)

/-- The four steps of a triggered rotation. Their flags and the old key are parameters here. -/
def sandboxSteps (distributeFlag revokeFlag : Bool) (oldKey : Option String) : List StepSpec :=
  [{ id := 1, idx := 0, kind := .provision, target := { type := some "sandbox" }
     compensation := some { action := some "delete_new_key" }, requiresConfirmation := false },
    { id := 2, idx := 1, kind := .distribute, target := { type := some "sandbox" }
      compensation := some { action := some "restore_old_secret_value" }
      requiresConfirmation := distributeFlag },
    { id := 3, idx := 2, kind := .verify, target := { type := some "sandbox" }
      compensation := none, requiresConfirmation := false },
    { id := 4, idx := 3, kind := .revoke, target := { type := some "sandbox", keyId := oldKey }
      compensation := some { action := some "reactivate_old_key" }
      requiresConfirmation := revokeFlag }]

/-- A demo rotation with the plan of `trigger_rotation`. -/
def sandboxProposal (distributeFlag revokeFlag : Bool) (oldKey : Option String)
    (coverage : Coverage) : Proposal where
  workspace := { id := 7, kind := .demo, demoSessionId := some "session", expiresAt := none }
  id := 5
  secretId := 6
  plan := some { storePath := none, otherKeys := ["summary", "steps", "coverage"] }
  coverage := coverage
  planExpiresAt := some 100
  createdAt := 0
  steps := sandboxSteps distributeFlag revokeFlag oldKey
  idUnique := by
    change [1, 2, 3, 4].Nodup
    decide
  idxUnique := by
    change ([0, 1, 2, 3] : List Int).Nodup
    decide

/-- The plan of `trigger_rotation` itself. -/
def triggeredPlan : Proposal :=
  sandboxProposal true true none { knownConsumers := some 1, unknownConsumers := some 0 }

/-- The demo plan without flags, with a revoke step that names its old key. -/
def namedPlan : Proposal :=
  sandboxProposal false false (some "OLD") { knownConsumers := some 1, unknownConsumers := some 0 }

/-- The token of the owner of the demo workspace. -/
def sandboxOwner : TokenClaims where
  sub := "owner"
  workspaceId := 7
  role := "owner"

/-- The approval of the demo rotation by its owner. -/
def sandboxApproval : Request := .approve 7 5 sandboxOwner

/-- An engine call with the sandbox connectors. -/
def sandboxCall (failAt : Option String) : Invocation SandboxStore where
  connectors := sandboxConnectors failAt
  clock := 1
  actor := "system"

/-- The approval and the four engine calls of a demo rotation without flags. -/
def sandboxRun : List (Action SandboxStore) :=
  .request sandboxApproval 1 :: List.replicate 4 (.advance (sandboxCall none))

end Sprawl
