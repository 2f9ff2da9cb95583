/-
This file gives the events of a workspace from their publication to the handler of the web client.
-/

import Sprawl.Streaming.JsonText
import Sprawl.Text.Lines

namespace Sprawl

open Text

section Python

mutual

/-- The text of a Python value, as a tree. -/
def Json.tree : Json → JsonTree Numeral
  | .null => .null
  | .bool value => .bool value
  | .int value => .number (intNumeral value)
  | .float value => .number (floatNumeral value)
  | .str value => .string value
  | .arr items => .array (itemTrees items)
  | .obj fields => .object (fieldTrees fields)

def itemTrees : List Json → List (JsonTree Numeral)
  | [] => []
  | item :: rest => item.tree :: itemTrees rest

def fieldTrees : List (String × Json) → List (String × JsonTree Numeral)
  | [] => []
  | (key, value) :: rest => (key, value.tree) :: fieldTrees rest

end

/-- This is `json.dumps`. -/
def dumps (value : Json) : String := String.ofList (dumpsStyle.print value.tree)

def readInt : List Char → Int
  | '-' :: digits => -(Nat.ofDigitChars 10 digits 0 : Int)
  | digits => (Nat.ofDigitChars 10 digits 0 : Int)

variable (float : Numeral → PyFloat)

/-- A number without a point and an exponent is an integer. The other ones go to `float`. -/
def pythonNumber (numeral : Numeral) : Json :=
  if numeral.text.all fun char => char.isDigit || char = '-' then .int (readInt numeral.text)
  else .float (float numeral)

mutual

def pythonValue : JsonTree Numeral → Json
  | .null => .null
  | .bool value => .bool value
  | .number numeral => pythonNumber float numeral
  | .string text => .str text
  | .array items => .arr (pythonItems items)
  | .object fields => .obj (objectOf (pythonFields fields))

def pythonItems : List (JsonTree Numeral) → List Json
  | [] => []
  | item :: rest => pythonValue item :: pythonItems rest

def pythonFields : List (String × JsonTree Numeral) → List (String × Json)
  | [] => []
  | (key, field) :: rest => (key, pythonValue field) :: pythonFields rest

end

/-- This is `json.loads` on texts without NaN, the infinities and lone surrogates. -/
def loads (text : String) : Option Json :=
  (readTree readCharacter text.toList).map fun tree => pythonValue float (tree.mapText String.ofList)

end Python

section Server

/-- An event on one line, whose payload leaves the key `type` to it. -/
structure PublishedEvent where
  type : String
  payload : JsonDict
  named : type ≠ ""
  oneLine : '\n' ∉ type.toList ∧ '\r' ∉ type.toList
  untyped : "type" ∉ payload.fields.map (·.1)

/-- This is the message of `publish_event` and of `publish`. -/
def publishEvent (eventType : String) (payload : JsonDict) : String :=
  dumps (.obj (objectOf (("type", .str eventType) :: payload.fields)))

/-- `get_message` waits for a message and may return without one. A message may be of another type
than `message`. -/
inductive Poll where
  | nothing
  | other
  | message (raw : String)

def Poll.raw? : Poll → Option String
  | .message raw => some raw
  | _ => none

variable (float : Numeral → PyFloat) (str : Json → String)

/-- This is `{event_type}` in an f-string. -/
def formatted : Json → String
  | .str text => text
  | value => str value

/-- The event type and the data of a message. `list.pop` raises a `TypeError` that nobody catches. -/
def relay (raw : String) : Option (String × String) :=
  match loads float raw with
  | some (.obj payload) =>
      some (formatted str ((payload.lookup "type").getD (.str "event")),
        dumps (.obj (payload.filter (·.1 ≠ "type"))))
  | some (.arr _) => none
  | _ => some ("event", raw)

def keepalive : String := ": keepalive\n\n"

def sseFrame (counter : Nat) (eventType data : String) : String :=
  "id: " ++ toString counter ++ "\nevent: " ++ eventType ++ "\ndata: " ++ data ++ "\n\n"

/-- These are the frames of `workspace_event_stream` for the polls before its deadline. -/
def workspaceEventStream : Nat → List Poll → List String
  | _, [] => []
  | counter, .nothing :: rest => keepalive :: workspaceEventStream counter rest
  | counter, .other :: rest => workspaceEventStream counter rest
  | counter, .message raw :: rest =>
      match relay float str raw with
      | none => []
      | some (eventType, data) =>
          sseFrame (counter + 1) eventType data :: workspaceEventStream (counter + 1) rest

end Server

section Client

variable {ν : Type} (number : Numeral → ν)

/-- This is `JSON.parse`. -/
def jsonParse (text : List Char) : Option (JsonTree ν JsText) :=
  (readTree readPoint text).map (JsonTree.value number)

/-- A string of characters, as the client reads it. -/
def jsText (text : String) : JsText := pointsOf .scalar text

/-- The blanks that `trim` drops. -/
def isJsBlank (char : Char) : Bool :=
  [9, 10, 11, 12, 13, 32, 160, 5760, 8232, 8233, 8239, 8287, 12288, 65279].contains char.toNat ||
    (8192 ≤ char.toNat && char.toNat ≤ 8202)

/-- The event of a line. A line that is no JSON is ignored. -/
def onLine (line : List Char) : Option (JsonTree ν JsText) :=
  if "data:".toList.isPrefixOf line then
    let raw := stripChars isJsBlank (line.drop 5)
    if raw.isEmpty || raw = ":keepalive".toList then none else jsonParse number raw
  else none

/-- These are the calls of `onEvent` for the chunks of one connection, as the decoder returns them. -/
def useWorkspaceSse (chunks : List (List Char)) : List (JsonTree ν JsText) :=
  (chunks.foldl (LineReader.receive '\n' (onLine number)) .start).handled

end Client

section RoundTrip

variable {ν : Type} (number : Numeral → ν)

/-- The value of the client for a value of the server. -/
def jsValue (value : Json) : JsonTree ν JsText := (value.tree.mapText jsText).value number

/-- The payload with the field `type`. -/
def PublishedEvent.extended (event : PublishedEvent) : Json :=
  .obj (("type", .str event.type) :: event.payload.fields)

/-- The client is called once for each event, in order, with the payload and the type. -/
def RoundTrips (events : List PublishedEvent) (calls : List (JsonTree ν JsText)) : Prop :=
  List.Forall₂ (fun event call =>
    ∀ key, call.field? key = (jsValue number event.extended).field? key) events calls

end RoundTrip

end Sprawl
