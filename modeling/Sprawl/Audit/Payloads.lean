/-
This file gives the hash chain over the payloads that `audit` builds, and when two payloads are the
same JSON value.
-/

import Sprawl.Audit.Writers

namespace Sprawl

mutual

/-- A document with the keys of all its objects in order. -/
def Json.ordered : Json → Json
  | .null => .null
  | .bool value => .bool value
  | .int value => .int value
  | .float value => .float value
  | .str value => .str value
  | .arr items => .arr (orderedItems items)
  | .obj fields => .obj ((orderedFields fields).insertionSort byName)

def orderedItems : List Json → List Json
  | [] => []
  | item :: rest => item.ordered :: orderedItems rest

def orderedFields : List (String × Json) → List (String × Json)
  | [] => []
  | (key, value) :: rest => (key, value.ordered) :: orderedFields rest

end

/-- Two documents are the same JSON value: the order of keys makes no difference. -/
def Json.Agrees (first second : Json) : Prop := first.ordered = second.ordered

mutual

/-- A document without a float. -/
def Json.Floatless : Json → Prop
  | .null | .bool _ | .int _ | .str _ => True
  | .float _ => False
  | .arr items => FloatlessItems items
  | .obj fields => FloatlessFields fields

def FloatlessItems : List Json → Prop
  | [] => True
  | item :: rest => item.Floatless ∧ FloatlessItems rest

def FloatlessFields : List (String × Json) → Prop
  | [] => True
  | (_, value) :: rest => value.Floatless ∧ FloatlessFields rest

end

/-- The payload of an entry. Its workspace and its time are texts. -/
structure AuditPayload where
  workspaceId : String
  actor : String
  action : String
  targetType : Option String
  targetId : Option String
  before : Option JsonDict
  after : Option JsonDict
  correlationId : Option String
  createdAt : String

/-- The dictionary that `audit` hashes. -/
def AuditPayload.json (payload : AuditPayload) : Json :=
  .obj
    [("workspace_id", .str payload.workspaceId),
      ("actor", .str payload.actor),
      ("action", .str payload.action),
      ("target_type", .optional .str payload.targetType),
      ("target_id", .optional .str payload.targetId),
      ("before", .dict payload.before),
      ("after", .dict payload.after),
      ("correlation_id", .optional .str payload.correlationId),
      ("created_at", .str payload.createdAt)]

/-- The payload of a call at a reading of the clock, for documents with text keys. -/
def AuditCall.payloadAt (call : AuditCall) (before after : Option JsonDict) (now : Time) :
    AuditPayload where
  workspaceId := toString call.workspaceId
  actor := call.actor
  action := call.action
  targetType := call.targetType
  targetId := call.targetId
  before := before
  after := after
  correlationId := call.correlationId
  createdAt := toString now

/-- The documents of a payload have no float. -/
structure AuditPayload.Floatless (payload : AuditPayload) : Prop where
  before : (Json.dict payload.before).Floatless
  after : (Json.dict payload.after).Floatless

section Chain

variable [Sha256]

/-- The hash of the last entry of a chain after a first hash. -/
def chainHash (first : String) (payloads : List AuditPayload) : String :=
  payloads.foldl (fun prevHash payload => computeHash prevHash payload.json) first

/-- The texts that are hashed for a chain. -/
def chainTexts : String → List AuditPayload → List String
  | _, [] => []
  | prevHash, payload :: rest =>
      (prevHash ++ canonicalJson payload.json) :: chainTexts (computeHash prevHash payload.json) rest

end Chain

end Sprawl
