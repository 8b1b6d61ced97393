import Observatory.Text.Split

/-! # Container ids

A container is known by a short id of ASCII letters and digits. The container runtime reports a longer
one behind a scheme, of which the tracer keeps the first twelve characters.
-/

namespace Observatory

/-- Between one and 255 ASCII letters and digits. -/
def ContainerId.Valid (text : String) : Prop :=
  text.toList ≠ [] ∧ text.toList.length ≤ 255 ∧ text.toList.all Char.isAlphanum = true

instance (text : String) : Decidable (ContainerId.Valid text) :=
  inferInstanceAs (Decidable (_ ∧ _ ∧ _))

structure ContainerId where
  text : String
  valid : ContainerId.Valid text
deriving DecidableEq, Repr

namespace ContainerId

inductive Error where
  | invalidId (raw : String)
  | invalidUri (uri : String)
deriving DecidableEq, Repr

def Error.message : Error → String
  | .invalidId raw => "invalid container id: " ++ raw
  | .invalidUri uri => "invalid runtime container uri: " ++ uri

def ofString? (raw : String) : Option ContainerId :=
  if valid : Valid raw then some ⟨raw, valid⟩ else none

def ofString (raw : String) : Except Error ContainerId :=
  match ofString? raw with
  | some id => .ok id
  | none => .error (.invalidId raw)

/-- How much of a runtime's id the tracer keeps. -/
def shortLength : Nat := 12

/-- The short id inside the id that a container runtime reports. -/
def ofRuntimeUri? (uri : String) : Option ContainerId := do
  let (_, id) ← Text.splitOnce "://".toList uri.toList
  if id.length < shortLength then none
  else ofString? (String.ofList (id.take shortLength))

def ofRuntimeUri (uri : String) : Except Error ContainerId :=
  match ofRuntimeUri? uri with
  | some id => .ok id
  | none => .error (.invalidUri uri)

end ContainerId

/-- The digest in a runtime's image id: what follows its scheme, if it has one. -/
def imageDigest (imageId : String) : String :=
  match Text.splitOnce "://".toList imageId.toList with
  | some (_, digest) => String.ofList digest
  | none => imageId

end Observatory
