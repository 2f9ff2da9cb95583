/-
This file gives the picture of a blast radius: the placement of the nodes and the edges between them.
-/

import Sprawl.Api.Database

namespace Sprawl

/-- This is `NODE_W`. -/
def nodeW : Int := 220

/-- This is `NODE_H`. -/
def nodeH : Int := 80

/-- This is `H_GAP`. -/
def hGap : Int := 60

/-- This is `V_GAP`. -/
def vGap : Int := 110

/-- This is `LEVEL`. It knows every kind. -/
def NodeKind.level : NodeKind → Int
  | .secret => 0
  | .location => 1
  | .ci => 1
  | .principal => 1
  | .storeEntry => 2
  | .resource => 2
  | .environment => 3

structure Position where
  x : Int
  y : Int
  deriving DecidableEq, Repr

section Map

variable {κ ν : Type} [DecidableEq κ]

/-- A map keeps its keys in the order of their first insertions. A value joins those of its key. -/
def pushAt (key : κ) (value : ν) : List (κ × List ν) → List (κ × List ν)
  | [] => [(key, [value])]
  | (other, values) :: rest =>
      if other = key then (other, values ++ [value]) :: rest
      else (other, values) :: pushAt key value rest

/-- A map holds the last value that was set for a key. -/
def getLast (key : κ) (settings : List (κ × ν)) : Option ν := settings.reverse.lookup key

end Map

/-- The nodes of each level, in the order of the list. -/
def byLevel (nodes : List GraphNode) : List (Int × List GraphNode) :=
  nodes.foldl (fun levels node => pushAt node.kind.level node levels) []

/-- A row of boxes is centred. The total width is even. -/
def levelPositions (level : Int) (nodes : List GraphNode) : List (Uuid × Position) :=
  let totalW : Int := nodes.length * nodeW + (nodes.length - 1) * hGap
  nodes.mapIdx fun i node =>
    (node.id, { x := i * (nodeW + hGap) - totalW / 2 + nodeW / 2, y := level * (nodeH + vGap) })

/-- This is `computeLayout`, as the list of its `positions.set` calls. -/
def computeLayout (nodes : List GraphNode) : List (Uuid × Position) :=
  (byLevel nodes).flatMap fun (level, nodes) => levelPositions level nodes

/-- A node of the picture. -/
structure FlowNode where
  id : Uuid
  position : Position
  kind : NodeKind
  label : String
  environment : Environment
  attrs : Document

/-- An edge of the picture. -/
structure FlowEdge where
  id : Uuid
  source : Uuid
  target : Uuid
  label : String
  strokeDasharray : Option String
  animated : Bool
  deriving DecidableEq, Repr

/-- This is `toFlowNodes`. -/
def toFlowNodes (apiNodes : List GraphNode) : List FlowNode :=
  let positions := computeLayout apiNodes
  apiNodes.map fun node =>
    { id := node.id
      position := (getLast node.id positions).getD ⟨0, 0⟩
      kind := node.kind
      label := node.label
      environment := node.environment
      attrs := node.attrs }

/-- This is `EDGE_LABEL`. -/
def edgeLabel : EdgeKind → String
  | .foundIn => "found in"
  | .storedIn => "stored in"
  | .isPrincipal => "is principal"
  | .grantsAccessTo => "grants access to"
  | .usedBy => "used by"
  | .canAccess => "can access"

/-- The dashes of `edgeStyle`. -/
def Confidence.dashes : Confidence → Option String
  | .high => none
  | .medium => some "6 3"
  | .low => some "2 4"

/-- This is `toFlowEdges`. -/
def toFlowEdges (apiEdges : List GraphEdge) : List FlowEdge :=
  apiEdges.map fun edge =>
    { id := edge.id
      source := edge.srcNodeId
      target := edge.dstNodeId
      label := edgeLabel edge.kind
      strokeDasharray := edge.confidence.dashes
      animated := edge.confidence = .high }

end Sprawl
