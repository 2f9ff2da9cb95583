/-
This file gives subscriptions to channels and proves which messages their polls return.
-/

import Sprawl.Effect.Transition

namespace Effect

/-- A subscription has an owner, the replies to its polls and the messages that wait for a poll. -/
structure Subscription (Owner Message : Type) where
  owner : Owner
  polls : List (Option Message)
  waiting : List Message
  isOpen : Bool

namespace Subscription

variable {Owner Message : Type}

/-- A new subscription has missed everything. -/
def opened (owner : Owner) : Subscription Owner Message where
  owner := owner
  polls := []
  waiting := []
  isOpen := true

/-- A poll returns the first message that waits, if there is one. -/
def polled (subscription : Subscription Owner Message) : Subscription Owner Message :=
  if subscription.isOpen then
    { subscription with
      polls := subscription.polls ++ [subscription.waiting.head?]
      waiting := subscription.waiting.tail }
  else subscription

/-- A closed subscription gets no message and polls no more. -/
def closed (subscription : Subscription Owner Message) : Subscription Owner Message :=
  { subscription with isOpen := false }

/-- The messages that the polls have returned. -/
def received (subscription : Subscription Owner Message) : List Message :=
  subscription.polls.filterMap id

/-- The messages that have been received or wait. -/
def offered (subscription : Subscription Owner Message) : List Message :=
  subscription.received ++ subscription.waiting

@[simp] theorem opened_offered (owner : Owner) :
    (opened owner : Subscription Owner Message).offered = [] := rfl

@[simp] theorem closed_offered (subscription : Subscription Owner Message) :
    subscription.closed.offered = subscription.offered := rfl

/-- A poll loses nothing. -/
@[simp] theorem polled_offered (subscription : Subscription Owner Message) :
    subscription.polled.offered = subscription.offered := by
  unfold polled
  split
  · simp only [offered, received, List.filterMap_append, List.append_assoc]
    cases subscription.waiting <;> rfl
  · rfl

@[simp] theorem polled_owner (subscription : Subscription Owner Message) :
    subscription.polled.owner = subscription.owner := by
  unfold polled
  split <;> rfl

end Subscription

section Broadcast

variable {Owner Channel Message : Type} [DecidableEq Channel] (channelOf : Owner → Channel)

/-- What happens to the subscriptions, which are numbered in their order. -/
inductive BroadcastAction (Owner Channel Message : Type) where
  | subscribe (owner : Owner)
  | publish (channel : Channel) (message : Message)
  | poll (index : Nat)
  | unsubscribe (index : Nat)

/-- An open subscription listens to the channel of its owner. -/
def Subscription.hears (channel : Channel) (subscription : Subscription Owner Message) : Bool :=
  subscription.isOpen && channelOf subscription.owner = channel

/-- A published message waits at every subscription that listens. -/
def Subscription.offer (channel : Channel) (message : Message)
    (subscription : Subscription Owner Message) : Subscription Owner Message :=
  if subscription.hears channelOf channel then
    { subscription with waiting := subscription.waiting ++ [message] }
  else subscription

def BroadcastAction.step : BroadcastAction Owner Channel Message →
    List (Subscription Owner Message) → List (Subscription Owner Message)
  | .subscribe owner, subscriptions => subscriptions ++ [.opened owner]
  | .publish channel message, subscriptions => subscriptions.map (·.offer channelOf channel message)
  | .poll index, subscriptions => subscriptions.modify index (·.polled)
  | .unsubscribe index, subscriptions => subscriptions.modify index (·.closed)

/-- The message that an action publishes where a subscription listens. -/
def BroadcastAction.heardBy (index : Nat) (subscriptions : List (Subscription Owner Message)) :
    BroadcastAction Owner Channel Message → Option Message
  | .publish channel message =>
      if subscriptions[index]?.any (·.hears channelOf channel) then some message else none
  | _ => none

/-- The messages that are published in a run where a subscription listens. -/
def heard (index : Nat) (actions : List (BroadcastAction Owner Channel Message))
    (subscriptions : List (Subscription Owner Message)) : List Message :=
  (visits (BroadcastAction.step channelOf) actions subscriptions).filterMap fun visit =>
    visit.2.heardBy channelOf index visit.1

/-- What the subscription of a number has been offered. There may be none yet. -/
def offeredTo (index : Nat) (subscriptions : List (Subscription Owner Message)) : List Message :=
  subscriptions[index]?.elim [] Subscription.offered

variable {channelOf} {index : Nat} {subscriptions : List (Subscription Owner Message)}

theorem offer_offered (channel : Channel) (message : Message)
    (subscription : Subscription Owner Message) :
    (subscription.offer channelOf channel message).offered =
      subscription.offered ++ if subscription.hears channelOf channel then [message] else [] := by
  unfold Subscription.offer
  split
  · exact (List.append_assoc ..).symm
  · exact (List.append_nil _).symm

/-- A change of one subscription that offers nothing is no offer to any. -/
theorem offeredTo_modify {change : Subscription Owner Message → Subscription Owner Message}
    (same : ∀ subscription, (change subscription).offered = subscription.offered) (changed : Nat) :
    offeredTo index (subscriptions.modify changed change) = offeredTo index subscriptions := by
  unfold offeredTo
  rw [List.getElem?_modify]
  cases subscriptions[index]? with
  | none => rfl
  | some subscription =>
      by_cases here : changed = index
      · simp [here, same]
      · simp [here]

/-- A step offers what it publishes where the subscription listens. -/
theorem offeredTo_step (action : BroadcastAction Owner Channel Message) :
    offeredTo index (action.step channelOf subscriptions) =
      offeredTo index subscriptions ++ (action.heardBy channelOf index subscriptions).toList := by
  cases action with
  | subscribe owner =>
      change offeredTo index (subscriptions ++ [.opened owner]) = offeredTo index subscriptions ++ []
      rw [List.append_nil]
      unfold offeredTo
      by_cases earlier : index < subscriptions.length
      · rw [List.getElem?_append_left earlier]
      · have late : subscriptions.length ≤ index := Nat.le_of_not_lt earlier
        rw [List.getElem?_append_right late, List.getElem?_eq_none late]
        cases found : [(Subscription.opened owner : Subscription Owner Message)][index -
            subscriptions.length]? with
        | none => rfl
        | some subscription =>
            obtain rfl := List.mem_singleton.mp (List.mem_of_getElem? found)
            rfl
  | publish channel message =>
      unfold offeredTo BroadcastAction.step BroadcastAction.heardBy
      rw [List.getElem?_map]
      cases subscriptions[index]? with
      | none => rfl
      | some subscription =>
          change (subscription.offer channelOf channel message).offered = subscription.offered ++ _
          rw [offer_offered]
          cases heard : subscription.hears channelOf channel <;> simp [heard]
  | poll polled =>
      exact (offeredTo_modify Subscription.polled_offered polled).trans (List.append_nil _).symm
  | unsubscribe left =>
      exact (offeredTo_modify Subscription.closed_offered left).trans (List.append_nil _).symm

theorem heard_cons (action : BroadcastAction Owner Channel Message)
    (rest : List (BroadcastAction Owner Channel Message)) :
    heard channelOf index (action :: rest) subscriptions =
      (action.heardBy channelOf index subscriptions).toList ++
        heard channelOf index rest (action.step channelOf subscriptions) := by
  rw [heard, visits_cons, List.filterMap_cons]
  cases action.heardBy channelOf index subscriptions <;> rfl

/-- A subscription is offered every message that is published while it listens, in order. -/
theorem offeredTo_run (actions : List (BroadcastAction Owner Channel Message)) :
    offeredTo index (runActions (BroadcastAction.step channelOf) actions subscriptions) =
      offeredTo index subscriptions ++ heard channelOf index actions subscriptions := by
  induction actions generalizing subscriptions with
  | nil => exact (List.append_nil _).symm
  | cons action rest ih =>
      rw [runActions_cons, ih, offeredTo_step, heard_cons, List.append_assoc]

/-- In a run from the start, what a subscription has received and what waits for it are the messages
that were published while it listened. -/
theorem offered_eq_heard {actions : List (BroadcastAction Owner Channel Message)}
    {subscription : Subscription Owner Message}
    (found : (runActions (BroadcastAction.step channelOf) actions [])[index]? = some subscription) :
    subscription.offered = heard channelOf index actions [] := by
  have run : offeredTo index (runActions (BroadcastAction.step channelOf) actions []) =
      [] ++ heard channelOf index actions [] := offeredTo_run actions
  rw [offeredTo, found] at run
  exact run

variable (channelOf) in
/-- As many polls as messages wait leave none waiting. -/
theorem polls_drain {subscription : Subscription Owner Message}
    (found : subscriptions[index]? = some subscription) (isOpen : subscription.isOpen = true)
    {count : Nat} (enough : subscription.waiting.length ≤ count) :
    ∃ drained, (runActions (BroadcastAction.step channelOf) (List.replicate count (.poll index))
        subscriptions)[index]? = some drained ∧
      drained.waiting = [] ∧ drained.received = subscription.offered := by
  induction count generalizing subscription subscriptions with
  | zero =>
      have empty := List.length_eq_zero_iff.mp (Nat.le_zero.mp enough)
      refine ⟨subscription, found, empty, ?_⟩
      rw [Subscription.offered, empty, List.append_nil]
  | succ count ih =>
      have next : (BroadcastAction.step channelOf (.poll index) subscriptions)[index]? =
          some subscription.polled := by
        simp [BroadcastAction.step, found]
      have still : subscription.polled.isOpen = true := by simp [Subscription.polled, isOpen]
      have fewer : subscription.polled.waiting.length ≤ count := by
        simp only [Subscription.polled, isOpen, if_true, List.length_tail]
        omega
      obtain ⟨drained, reached, empty, received⟩ := ih next still fewer
      exact ⟨drained, reached, empty, received.trans subscription.polled_offered⟩

end Broadcast

end Effect
