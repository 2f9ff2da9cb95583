/-
This file gives an instance of the effect of `useWorkspaceSSE`, with its attempts and its cleanup.
-/

import Sprawl.Effect.Transition
import Sprawl.Streaming.Events

namespace Sprawl

open Text

section State

variable (ν : Type)

/-- An error, by the name that the `catch` asks for. -/
inductive SseError where
  | abortError
  | other

structure FetchResponse where
  ok : Bool
  body : Bool

/-- What the effect does to its surroundings. -/
inductive SseOutput where
  | fetch
  | onEvent (event : JsonTree ν JsText)

/-- Where `connect` stands. It waits for a promise, or its promise has settled, or it is between two
calls of `onEvent`, or it has left a timer, or it has returned. A read without a value is done. -/
inductive SsePhase where
  | fetching
  | fetched (response : FetchResponse)
  | reading (buffer : List Char)
  | received (buffer : List Char) (value : Option (List Char))
  | rejected (error : SseError)
  | handing (buffer : List Char) (events : List (JsonTree ν JsText))
  | retrying (delay : Nat)
  | returned

/-- The variables of the effect. The controller of the last attempt may be aborted. -/
structure SseEffect where
  active : Bool
  attempt : Nat
  aborted : Bool
  phase : SsePhase ν
  outputs : List (SseOutput ν)

/-- A handler may run the cleanup, and so it may come between two calls of `onEvent`. -/
inductive SseAction where
  | fetchSettles (outcome : Except SseError FetchResponse)
  | readSettles (outcome : Except SseError (Option (List Char)))
  | resume
  | timerFires
  | cleanup

end State

namespace SseEffect

variable {ν : Type} (number : Numeral → ν) (state : SseEffect ν)

def maxBackoffMs : Nat := 30000

/-- The start of an attempt, with a controller of its own. -/
def connect : SseEffect ν :=
  { state with
    aborted := false
    phase := .fetching
    outputs := state.outputs ++ [.fetch] }

/-- The end of an attempt. -/
def reconnect : SseEffect ν :=
  if state.active then
    { state with
      attempt := state.attempt + 1
      phase := .retrying (min (500 * 2 ^ state.attempt) maxBackoffMs) }
  else { state with phase := .returned }

/-- This is the `catch`. -/
def caught (error : SseError) : SseEffect ν :=
  if state.active then
    match error with
    | .abortError => { state with phase := .returned }
    | .other => state.reconnect
  else { state with phase := .returned }

/-- The head of the loop that reads. -/
def readOn (buffer : List Char) : SseEffect ν :=
  if state.active then { state with phase := .reading buffer } else state.reconnect

/-- The code runs on to its next `await`, its next call of `onEvent` or its end. -/
def resume : SseEffect ν :=
  match state.phase with
  | .fetched response =>
      if !response.ok || !response.body then state.caught .other
      else readOn { state with attempt := 0 } []
  | .received buffer (some value) =>
      let reader := LineReader.receive '\n' (onLine number) ⟨buffer, []⟩ value
      { state with phase := .handing reader.buffer reader.handled }
  | .received _ none => state.reconnect
  | .rejected error => state.caught error
  | .handing buffer (event :: rest) =>
      { state with
        phase := .handing buffer rest
        outputs := state.outputs ++ [.onEvent event] }
  | .handing buffer [] => state.readOn buffer
  | _ => state

/-- A promise of an aborted controller rejects with an `AbortError`. -/
def settle {α : Type} (fulfilled : α → SsePhase ν) (outcome : Except SseError α) : SseEffect ν :=
  if state.aborted then { state with phase := .rejected .abortError }
  else
    match outcome with
    | .ok value => { state with phase := fulfilled value }
    | .error error => { state with phase := .rejected error }

/-- An action that does not meet its phase changes nothing. -/
def step (action : SseAction) (state : SseEffect ν) : SseEffect ν :=
  match action, state.phase with
  | .fetchSettles outcome, .fetching => state.settle .fetched outcome
  | .readSettles outcome, .reading buffer => state.settle (.received buffer) outcome
  | .resume, _ => state.resume number
  | .timerFires, .retrying _ => state.connect
  | .cleanup, _ => { state with active := false, aborted := true }
  | _, _ => state

/-- The effect runs for a workspace and a token that are not empty. -/
def mount (workspaceId token : Option String) : SseEffect ν :=
  let blank : SseEffect ν :=
    { active := true, attempt := 0, aborted := false, phase := .returned, outputs := [] }
  if workspaceId.any (· ≠ "") && token.any (· ≠ "") then blank.connect else blank

/-- The state after some actions. -/
def run (workspaceId token : Option String) (actions : List SseAction) : SseEffect ν :=
  Effect.runActions (step number) actions (mount workspaceId token)

end SseEffect

end Sprawl
