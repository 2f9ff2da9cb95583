/-
This file proves which events the clients of many connections are called with.
-/

import Sprawl.Proof.EventRoundTrip
import Sprawl.Streaming.Fanout

namespace Sprawl

open Effect Text

section Channels

/-- The text of an identifier names it. -/
theorem toString_uuid_injective {first second : Uuid} (same : toString first = toString second) :
    first = second := by
  apply toDigits_injective
  have lists := congrArg String.toList same
  rwa [Nat.toString_eq_ofList_toDigits, Nat.toString_eq_ofList_toDigits, String.toList_ofList,
    String.toList_ofList] at lists

/-- Two workspaces have different channels. -/
theorem workspaceChannel_inj {first second : Uuid} :
    workspaceChannel first = workspaceChannel second ↔ first = second := by
  constructor
  · intro same
    have lists := congrArg String.toList same
    simp only [workspaceChannel, String.toList_append] at lists
    apply toString_uuid_injective
    have inner := List.append_cancel_left (List.append_cancel_right lists)
    exact String.toList_inj.mp inner
  · rintro rfl
    rfl

end Channels

section Heard

variable {index : Nat}

/-- A connection hears the messages of the events that are published in its workspace. -/
theorem heardBy_broadcast (action : StreamAction) (connections : List EventConnection) :
    action.broadcast.heardBy TokenClaims.channel index connections =
      (action.eventFor index connections).map PublishedEvent.message := by
  cases action with
  | publish workspaceId event =>
      have hears (connection : EventConnection) :
          connection.hears TokenClaims.channel (workspaceChannel workspaceId) =
            (connection.isOpen && decide (connection.owner.workspaceId = workspaceId)) :=
        congrArg (connection.isOpen && ·) (decide_eq_decide.mpr workspaceChannel_inj)
      simp only [StreamAction.broadcast, BroadcastAction.heardBy, StreamAction.eventFor, hears]
      split <;> rfl
  | _ => rfl

theorem heard_broadcast (actions : List StreamAction) (connections : List EventConnection) :
    heard TokenClaims.channel index (actions.map StreamAction.broadcast) connections =
      (eventsFor index actions connections).map PublishedEvent.message := by
  induction actions generalizing connections with
  | nil => rfl
  | cons action rest ih =>
      rw [List.map_cons, heard_cons, heardBy_broadcast, eventsFor, visits_cons, List.filterMap_cons]
      change _ ++ heard TokenClaims.channel index _ (action.step connections) = _
      rw [ih]
      cases action.eventFor index connections <;> rfl

/-- A run of the connections is one of their subscriptions. -/
theorem run_broadcast (actions : List StreamAction) (connections : List EventConnection) :
    runActions StreamAction.step actions connections =
      runActions (BroadcastAction.step TokenClaims.channel) (actions.map StreamAction.broadcast)
        connections := by
  induction actions generalizing connections with
  | nil => rfl
  | cons action rest ih => exact ih _

variable {actions : List StreamAction} {connection : EventConnection}
  (found : (runActions StreamAction.step actions [])[index]? = some connection)

include found

/-- What a connection has read and what waits for it are the events of its workspace. -/
theorem offered_events :
    connection.offered = (eventsFor index actions []).map PublishedEvent.message := by
  rw [run_broadcast] at found
  rw [offered_eq_heard found, heard_broadcast]

end Heard

section Calls

variable {ν : Type} (float : Numeral → PyFloat) (str : Json → String) (number : Numeral → ν)

/-- The calls of a client that has got the text of its connection in some chunks. -/
def CalledWith (connection : EventConnection) (events : List PublishedEvent) : Prop :=
  ∀ chunks : List (List Char), chunks.flatten = connection.sent float str →
    useWorkspaceSse number chunks = events.map (PublishedEvent.call float number)

theorem raw_pollReplies (polls : List (Option String)) :
    (polls.map pollReply).filterMap Poll.raw? = polls.filterMap id := by
  rw [List.filterMap_map]
  refine List.filterMap_congr fun poll _ => ?_
  cases poll <;> rfl

/-- A client is called with the events whose messages its connection has read. -/
theorem calledWith_received {connection : EventConnection} {events : List PublishedEvent}
    (received : connection.received = events.map PublishedEvent.message) :
    CalledWith float str number connection events := by
  intro chunks fed
  refine client_called float str number ?_ fed
  rw [raw_pollReplies]
  exact received

/-- In any run of publications and connections, a client is called once for each event that was
published in its workspace while its connection was open, in order, up to the messages that wait.
As many polls as messages wait bring the rest. -/
theorem clients_called {index : Nat} {actions : List StreamAction} {connection : EventConnection}
    (found : (runActions StreamAction.step actions [])[index]? = some connection) :
    (∃ called missed, eventsFor index actions [] = called ++ missed ∧
      connection.waiting = missed.map PublishedEvent.message ∧
        CalledWith float str number connection called) ∧
      (connection.isOpen = true → ∀ count, connection.waiting.length ≤ count →
        ∃ later, (runActions StreamAction.step (actions ++ List.replicate count (.poll index))
            [])[index]? = some later ∧
          CalledWith float str number later (eventsFor index actions [])) := by
  have offered := offered_events found
  constructor
  · obtain ⟨called, missed, split, received, waits⟩ := List.map_eq_append_iff.mp offered.symm
    exact ⟨called, missed, split, waits.symm, calledWith_received float str number received.symm⟩
  · intro isOpen count enough
    have here := found
    rw [run_broadcast] at here
    obtain ⟨drained, reached, _, received⟩ := polls_drain TokenClaims.channel here isOpen enough
    refine ⟨drained, ?_, calledWith_received float str number (received.trans offered)⟩
    rw [runActions_append, run_broadcast, run_broadcast, List.map_replicate]
    exact reached

end Calls

section Example

/-- The token of a viewer of workspace 2. -/
def viewerOfTwo : TokenClaims where
  sub := "viewer"
  workspaceId := 2
  role := "viewer"

/-- Two workspaces are streamed, and each of them has an event. -/
def twoStreams : List StreamAction :=
  [.connect { viewerOfTwo with workspaceId := 1 }, .connect viewerOfTwo,
    .publish 1 rotationCompleted, .publish 2 rotationCompleted, .poll 1, .poll 1]

/-- The second stream has read the event of its workspace. -/
def streamOfTwo : EventConnection where
  owner := viewerOfTwo
  polls := [some rotationCompleted.message, none]
  waiting := []
  isOpen := true

theorem twoStreams_reach : (runActions StreamAction.step twoStreams [])[1]? = some streamOfTwo := by
  have apart : workspaceChannel 1 ≠ workspaceChannel 2 :=
    fun same => absurd (workspaceChannel_inj.mp same) (by decide)
  simp [twoStreams, StreamAction.step, StreamAction.broadcast, BroadcastAction.step,
    Subscription.opened, Subscription.offer, Subscription.hears, Subscription.polled,
    TokenClaims.channel, viewerOfTwo, streamOfTwo, apart, apart.symm, PublishedEvent.message]

/-- The viewer of workspace 2 is called with its own event, and nothing waits. -/
theorem twoStreams_called :
    (∃ called missed, eventsFor 1 twoStreams [] = called ++ missed ∧
      streamOfTwo.waiting = missed.map PublishedEvent.message ∧
        CalledWith (fun _ => .decimal 0 0) (fun _ => "") id streamOfTwo called) ∧
      (streamOfTwo.isOpen = true → ∀ count, streamOfTwo.waiting.length ≤ count →
        ∃ later, (runActions StreamAction.step (twoStreams ++ List.replicate count (.poll 1))
            [])[1]? = some later ∧
          CalledWith (fun _ => .decimal 0 0) (fun _ => "") id later (eventsFor 1 twoStreams [])) :=
  clients_called (fun _ => .decimal 0 0) (fun _ => "") id twoStreams_reach

end Example

end Sprawl
