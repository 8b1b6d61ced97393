import Observatory.ContainerId
import Observatory.Service

/-! # The task queue

Tasks wait in a queue of bounded length. A sender that finds it full waits for a place. A place that
becomes free while senders wait is kept for the one that has waited longest, so a sender that comes
later cannot take it.
-/

namespace Observatory

/-- One artifact to derive. -/
structure Task where
  container : ContainerId
  service : Service
deriving DecidableEq, Repr

structure TaskQueue where
  isOpen : Bool
  tasks : List Task
  /-- Senders for which a place is kept. -/
  granted : List Nat
  /-- Senders without a place, the longest waiting first. -/
  waiting : List Nat
deriving DecidableEq, Repr

namespace TaskQueue

def capacity : Nat := 10

def empty : TaskQueue := ⟨true, [], [], []⟩

/-- Some place is neither taken nor kept for someone. -/
def hasRoom (queue : TaskQueue) : Bool :=
  queue.tasks.length + queue.granted.length < capacity

/-- The sender has to wait until a place is kept for it. -/
def isBlocked (queue : TaskQueue) (sender : Nat) : Bool :=
  sender ∈ queue.waiting

/-- Put a task at the end, into the sender's own place or a free one. A sender that finds none begins to
wait; the answer tells whether the task went in. -/
def offer (queue : TaskQueue) (sender : Nat) (task : Task) : TaskQueue × Bool :=
  if sender ∈ queue.granted then
    ({ queue with tasks := queue.tasks ++ [task], granted := queue.granted.erase sender }, true)
  else if queue.hasRoom then ({ queue with tasks := queue.tasks ++ [task] }, true)
  else ({ queue with waiting := queue.waiting ++ [sender] }, false)

/-- Take the first task out, and keep its place for the sender that has waited longest. -/
def take? (queue : TaskQueue) : Option (Task × TaskQueue) :=
  match queue.tasks with
  | [] => none
  | task :: tasks =>
      match queue.waiting with
      | [] => some (task, { queue with tasks := tasks })
      | sender :: waiting =>
          some (task, { queue with
            tasks := tasks, granted := queue.granted ++ [sender], waiting := waiting })

/-- End the queue. What it holds is lost, and nobody waits for it any longer. -/
def close (_ : TaskQueue) : TaskQueue := ⟨false, [], [], []⟩

end TaskQueue

end Observatory
