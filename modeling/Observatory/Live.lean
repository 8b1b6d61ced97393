import Observatory.Table
import Observatory.Trace.Event

/-! # Live listeners

Each container has at most one registered listener, identified by a token that is never used again. A
listener's inbox outlives its registration: what was delivered can still be received after a newer
listener has taken its place. A listener that has dropped its inbox loses its registration the next
time something is sent to it.
-/

namespace Observatory

open Trace

/-- One registration of a listener. -/
structure Subscription where
  container : ContainerId
  token : Nat
deriving DecidableEq, Repr

structure Live where
  nextToken : Nat
  listeners : Table ContainerId Nat
  inboxes : Table Nat (List Message)
deriving DecidableEq, Repr

/-- What a listener finds when it looks for the next message. -/
inductive Received where
  | message (message : Message)
  | pending
  | closed
deriving DecidableEq, Repr

namespace Live

def empty : Live := ⟨0, .empty, .empty⟩

/-- Register a listener in place of any earlier one. -/
def register (live : Live) (container : ContainerId) : Live × Subscription :=
  ({ nextToken := live.nextToken + 1
     listeners := live.listeners.insert container live.nextToken
     inboxes := live.inboxes.insert live.nextToken [] },
    ⟨container, live.nextToken⟩)

/-- Remove a registration, unless it has been replaced. -/
def unregister (live : Live) (subscription : Subscription) : Live :=
  if live.listeners.get? subscription.container = some subscription.token then
    { live with listeners := live.listeners.erase subscription.container }
  else live

/-- Give up an inbox and all it holds. -/
def dropInbox (live : Live) (token : Nat) : Live :=
  { live with inboxes := live.inboxes.erase token }

/-- Put a message into an inbox. -/
def deliver (live : Live) (token : Nat) (message : Message) : Live :=
  { live with inboxes := live.inboxes.modify token (· ++ [message]) }

/-- Send an event to the listener of its container, if there is one. -/
def forward (live : Live) (event : Event) : Live :=
  match live.listeners.get? event.container with
  | none => live
  | some token =>
      if live.inboxes.contains token then live.deliver token (.event event)
      else { live with listeners := live.listeners.erase event.container }

/-- Tell every listener that events were lost. -/
def broadcastOverflow (live : Live) : Live :=
  let reached := live.listeners.filter fun _ token => live.inboxes.contains token
  reached.values.foldl (fun live token => live.deliver token .overflow) { live with listeners := reached }

/-- The registration is still in place, so more may come. -/
def isOpen (live : Live) (token : Nat) : Bool :=
  live.listeners.values.contains token

/-- What is waiting in an inbox. -/
def inbox (live : Live) (token : Nat) : List Message :=
  (live.inboxes.get? token).getD []

/-- Take the next message out of an inbox. -/
def receive (live : Live) (token : Nat) : Received × Live :=
  match live.inbox token with
  | message :: rest => (.message message, { live with inboxes := live.inboxes.modify token fun _ => rest })
  | [] => (if live.isOpen token then .pending else .closed, live)

/-- The number of registered listeners. -/
def size (live : Live) : Nat :=
  live.listeners.size

end Live

end Observatory
