import Observatory.Document.Record
import Observatory.Sorted

/-! # System call profiles

An allow list of system calls, with an action for everything else. The list derived from observed
calls is canonical: it depends only on which names occur.
-/

namespace Observatory

structure SyscallRule where
  names : List String
  action : String
deriving DecidableEq, Repr

structure SyscallProfile where
  defaultAction : String
  syscalls : List SyscallRule
deriving DecidableEq, Repr

namespace SyscallProfile

def allowAction : String := "SCMP_ACT_ALLOW"

def denyAction : String := "SCMP_ACT_ERRNO"

/-- Allow exactly these system calls. Without any there is no rule at all. -/
def allowOnly (names : List String) : SyscallProfile where
  defaultAction := denyAction
  syscalls :=
    match Sorted.ofList names with
    | [] => []
    | sorted => [⟨sorted, allowAction⟩]

/-- The names that some rule allows. -/
def allowed (profile : SyscallProfile) : List String :=
  (profile.syscalls.filter (·.action = allowAction)).flatMap (·.names)

/-! ## Documents -/

def ruleDocument (rule : SyscallRule) : Document :=
  .record [("names", .array (rule.names.map .text)), ("action", .text rule.action)]

def toDocument (profile : SyscallProfile) : Document :=
  .record
    [("defaultAction", .text profile.defaultAction),
      ("syscalls", .array (profile.syscalls.map ruleDocument))]

def rule? (document : Document) : Option SyscallRule := do
  let fields ← document.fields? ["names", "action"]
  return {
    names := ← Document.required? fields "names" (·.list? Document.text?)
    action := ← Document.required? fields "action" Document.text? }

def ofDocument? (document : Document) : Option SyscallProfile := do
  let fields ← document.fields? ["defaultAction", "syscalls"]
  return {
    defaultAction := ← Document.required? fields "defaultAction" Document.text?
    syscalls := ← Document.required? fields "syscalls" (·.list? rule?) }

end SyscallProfile

end Observatory
