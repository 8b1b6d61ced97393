import Observatory.Text.Quoted
import Observatory.Text.Split

/-! # Registry credentials

Credentials for pulling an image. A scanner is given only the first of a list, so the one for the
image's own registry is moved to the front.
-/

namespace Observatory

structure Credential where
  registry : String
  username : String
  password : String
  auth : String
deriving DecidableEq, Repr

namespace Credential

def defaultRegistry : String := "docker.io"

/-- The registry of an image: the part before the first slash, if it looks like a host. -/
def imageRegistry (image : String) : String :=
  match Text.splitOnce ['/'] image.toList with
  | some (host, _) =>
      if '.' ∈ host ∨ ':' ∈ host ∨ host = "localhost".toList then String.ofList host
      else defaultRegistry
  | none => defaultRegistry

/-- The credential belongs to a registry. The default registry has a second name. -/
def isFor (credential : Credential) (registry : String) : Bool :=
  Text.occursIn registry.toList credential.registry.toList ||
    (registry == defaultRegistry &&
      Text.occursIn "index.docker.io".toList credential.registry.toList)

/-- Move the first element with a property to the front. -/
def moveToFront {α : Type} (p : α → Bool) (items : List α) : List α :=
  match items.dropWhile (!p ·) with
  | [] => items
  | found :: rest => found :: items.takeWhile (!p ·) ++ rest

/-- Move the credential of an image's registry to the front. -/
def prioritize (credentials : List Credential) (image : String) : List Credential :=
  moveToFront (·.isFor (imageRegistry image)) credentials

/-- A description that keeps what is secret to itself. -/
def describe (credential : Credential) : String :=
  let quoted (text : String) : String := String.ofList (Text.quoted text.toList)
  "RegistryCredential \x7b registry: " ++ quoted credential.registry ++ ", username: " ++
    quoted credential.username ++ ", .. \x7d"

end Credential

end Observatory
