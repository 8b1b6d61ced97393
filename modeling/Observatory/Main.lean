import Observatory.Startup

/-! # The command line

Reads the settings from the environment and reports what keeps the monitor from starting.
-/

namespace Observatory

/-- The environment variables that settings are read from. -/
def environment : IO Settings.Variables := do
  let values ← Settings.keys.mapM fun key => return (key, ← IO.getEnv key)
  return fun key => (values.lookup key).join

/-- Databases are reached by the caller of the library; the command line knows none. -/
def noDatabase : String → Except String Unit :=
  fun _ => .error "no database driver"

end Observatory

def main : IO UInt32 := do
  match Observatory.startUp Observatory.noDatabase (← Observatory.environment) with
  | .ok settings =>
      IO.println ("watching pods on node `" ++ settings.nodeName ++ "`")
      return 0
  | .error error =>
      IO.eprintln ("Error: " ++ error.message)
      return 1
