import Observatory.Artifact
import Observatory.Settings

/-! # Starting up

A monitor reads its settings and then connects to its database. Either may end it.
-/

namespace Observatory

inductive StartupError where
  | settings (error : SettingsError)
  | database (error : Artifact.StoreError)
deriving DecidableEq, Repr

def StartupError.message : StartupError → String
  | .settings error => "invalid configuration: " ++ error.message
  | .database error => error.message

/-- The settings, once the database has accepted a connection to its address. -/
def startUp (connect : String → Except String Unit) (source : Settings.Variables) :
    Except StartupError Settings :=
  match Settings.ofVariables source with
  | .error error => .error (.settings error)
  | .ok settings =>
      match connect settings.databaseUrl with
      | .ok () => .ok settings
      | .error reason => .error (.database (.connection reason))

end Observatory
