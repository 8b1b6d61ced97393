import Observatory.Http.Route
import Observatory.Monitor.View
import Observatory.Net.Target

/-! # Answers

What a monitor answers over HTTP. It can only be read: any method but GET and HEAD is refused, and a
HEAD request is answered like a GET request without the body.
-/

namespace Observatory.Http

inductive Body where
  | none
  | text (text : String)
  | document (document : Document)
deriving Repr

structure Answer where
  status : Nat
  body : Body
  /-- The body is announced and left out. -/
  headOnly : Bool
deriving Repr

namespace Answer

def contentType? (answer : Answer) : Option String :=
  match answer.body with
  | .none => Option.none
  | .text _ => some "text/plain; charset=utf-8"
  | .document _ => some "application/json"

def notFound : Answer := ⟨404, .none, false⟩

def notAllowed : Answer := ⟨405, .none, false⟩

def ofText (status : Nat) (text : String) : Answer := ⟨status, .text text, false⟩

def ofDocument (document : Document) : Answer := ⟨200, .document document, false⟩

end Answer

/-- The stored artifacts of a workload. -/
abbrev Archive := String → Except Artifact.StoreError (List Document)

/-- Running and finished observations. -/
def containersDocument (monitor : Monitor) : Document :=
  .record
    [("active", .array (monitor.active.map (·.toDocument))),
      ("retained", .array (monitor.retention.records.map (·.toDocument)))]

def answerRoute (monitor : Monitor) (archive : Archive) : Route → Answer
  | .containers => .ofDocument (containersDocument monitor)
  | .events container =>
      match ContainerId.ofString (String.ofList container) with
      | .ok container =>
          .ofDocument (.array ((monitor.accumulator.query container).map (·.toDocument)))
      | .error error => .ofText 400 error.message
  | .artifacts resourceName =>
      match archive (String.ofList resourceName) with
      | .ok rows => .ofDocument (.array rows)
      | .error _ => .ofText 500 "failed to query artifacts"

/-- Answer a request for a path. The path is looked at before the method, and the method before the
variable segment. -/
def answerPath (monitor : Monitor) (archive : Archive) (method : String) (path : List Char) : Answer :=
  match Route.ofPath? path with
  | none => .notFound
  | some route =>
      if method ≠ "GET" && method ≠ "HEAD" then .notAllowed
      else
        let answer :=
          match route.decode with
          | .ok route => answerRoute monitor archive route
          | .error segment => .ofText 400 ("Invalid URL: Invalid UTF-8 in `" ++ segment ++ "`")
        { answer with headOnly := method = "HEAD" }

/-- Answer a request. Query and fragment of its target make no difference; `none` if the target is
none. -/
def answer? (monitor : Monitor) (archive : Archive) (method : String) (target : List Char) :
    Option Answer :=
  (Net.targetPath? target).map (answerPath monitor archive method)

end Observatory.Http
