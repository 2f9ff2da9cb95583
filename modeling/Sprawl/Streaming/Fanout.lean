/-
This file gives the event channels of the workspaces and the connections that stream them.
-/

import Sprawl.Effect.Broadcast
import Sprawl.Rotation.Requests
import Sprawl.Streaming.Events

namespace Sprawl

open Effect Text

/-- This is `workspace_channel` of the api and of the worker. -/
def workspaceChannel (workspaceId : Uuid) : String :=
  "workspace:" ++ toString workspaceId ++ ":events"

/-- `stream_events` subscribes to the channel of the workspace in its token. -/
def TokenClaims.channel (claims : TokenClaims) : String := workspaceChannel claims.workspaceId

/-- This is a connection of `stream_events`. -/
abbrev EventConnection := Subscription TokenClaims String

/-- `publish` and `publish_event` publish an event. A connection polls in its loop, and it ends when
its client is gone or its time is over. -/
inductive StreamAction where
  | publish (workspaceId : Uuid) (event : PublishedEvent)
  | connect (claims : TokenClaims)
  | poll (connection : Nat)
  | close (connection : Nat)

namespace StreamAction

/-- What the action does on the channels of redis. -/
def broadcast : StreamAction → BroadcastAction TokenClaims String String
  | .publish workspaceId event =>
      .publish (workspaceChannel workspaceId) (publishEvent event.type event.payload)
  | .connect claims => .subscribe claims
  | .poll connection => .poll connection
  | .close connection => .unsubscribe connection

def step (action : StreamAction) (connections : List EventConnection) : List EventConnection :=
  action.broadcast.step TokenClaims.channel connections

/-- The event that an action publishes in the workspace of an open connection. -/
def eventFor (index : Nat) (connections : List EventConnection) :
    StreamAction → Option PublishedEvent
  | .publish workspaceId event =>
      if connections[index]?.any fun connection =>
          connection.isOpen && connection.owner.workspaceId = workspaceId then some event
      else none
  | _ => none

end StreamAction

/-- The events that a run publishes in the workspace of a connection while it is open. -/
def eventsFor (index : Nat) (actions : List StreamAction) (connections : List EventConnection) :
    List PublishedEvent :=
  (visits StreamAction.step actions connections).filterMap fun visit =>
    visit.2.eventFor index visit.1

/-- `get_message` returns a message or nothing in time. -/
def pollReply : Option String → Poll
  | some raw => .message raw
  | none => .nothing

/-- The text that a connection has sent to its client. -/
def EventConnection.sent (float : Numeral → PyFloat) (str : Json → String)
    (connection : EventConnection) : List Char :=
  (workspaceEventStream float str 0 (connection.polls.map pollReply)).flatMap String.toList

end Sprawl
