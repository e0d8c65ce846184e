import BearerGate.Settings

/-!
# Start-up

The settings are read from the environment. A server that cannot use them refuses to start and
says which variable is to blame.
-/

namespace BearerGate

/-- What is said at start-up about settings that can be used. -/
def startLines (settings : Settings) : List String :=
  (match settings.keyEndpoint? with
    | some endpoint => ["keys are fetched from " ++ endpoint]
    | none => ["IMAS_URL not set, calls are not authenticated"]) ++
  ["calls are served at " ++ settings.publicAddress,
    "health and metrics are shown at " ++ settings.internalAddress]

/-- The line that refuses a start. -/
def refusalLine (fault : SettingFault) : String :=
  "Error: " ++ fault.summary

end BearerGate

open BearerGate in
/-- Reads the settings and reports them, or refuses the start. -/
def main : IO UInt32 := do
  let given ← Settings.variableNames.filterMapM fun name => do
    pure ((← IO.getEnv name).map fun value => (name, value))
  match Settings.ofLookup fun name => given.lookup name with
  | .ok settings =>
    for line in startLines settings do
      IO.println line
    pure 0
  | .error fault =>
    IO.eprintln (refusalLine fault)
    pure 1
