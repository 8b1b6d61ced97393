import Observatory.Text.Percent
import Observatory.Text.Split

/-! # Routes

The paths under which a monitor can be asked. Their fixed segments have to match exactly; a variable
segment is decoded.
-/

namespace Observatory.Http

inductive Route where
  | containers
  | events (container : List Char)
  | artifacts (resourceName : List Char)
deriving DecidableEq, Repr

namespace Route

/-- The route of a path, its variable segment not yet decoded. Only the last segment of a path has to
be there. -/
def ofPath? (path : List Char) : Option Route :=
  match (Text.splitOn ['/'] path).map String.ofList with
  | ["", "containers"] => some .containers
  | ["", "containers", container, "events"] => some (.events container.toList)
  | ["", "artifacts", resourceName] =>
      if resourceName = "" then none else some (.artifacts resourceName.toList)
  | _ => none

/-- The route with its variable segment decoded, or the name of the segment that cannot be. -/
def decode : Route → Except String Route
  | .containers => .ok .containers
  | .events container =>
      match Text.percentDecode? container with
      | some container => .ok (.events container)
      | none => .error "id"
  | .artifacts resourceName =>
      match Text.percentDecode? resourceName with
      | some resourceName => .ok (.artifacts resourceName)
      | none => .error "resource_name"

end Route

end Observatory.Http
