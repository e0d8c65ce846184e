import BearerGate.Keys.Manager
import BearerGate.Net.Url
import BearerGate.Number.DecimalText

/-!
# Settings

The settings are read from eight variables. One that is not set or blank leaves its setting at the
default. The variables are read in a fixed order, and the first whose value cannot be used refuses
the start, with the value as it was given.
-/

namespace BearerGate

/-- The form of log records. -/
inductive LogFormat
  | json
  | pretty
  deriving DecidableEq

namespace LogFormat

/-- The form of the given name, or the wording of the refusal. Case does not count. -/
def parse (text : String) : Except String LogFormat :=
  let name := Text.lowerText text
  if name = "json" then .ok .json
  else if name = "pretty" ∨ name = "text" then .ok .pretty
  else .error ("unknown log format " ++ Text.quote name)

/-- The name of a form. -/
def name : LogFormat → String
  | .json => "Json"
  | .pretty => "Pretty"

end LogFormat

/-- A variable whose value cannot be used. -/
structure SettingFault where
  name : String
  value : String
  reason : String
  deriving DecidableEq

namespace SettingFault

/-- The wording of a refusal. -/
def message (fault : SettingFault) : String :=
  fault.name ++ ": invalid value " ++ Text.quote fault.value ++ ": " ++ fault.reason

/-- One line about a refusal for diagnostics. -/
def summary (fault : SettingFault) : String :=
  "Invalid \x7b var: " ++ Text.quote fault.name ++ ", value: " ++ Text.quote fault.value ++
    ", reason: " ++ Text.quote fault.reason ++ " \x7d"

end SettingFault

/-- The settings of a server. -/
structure Settings where
  serviceUrl : Option Url
  keyTtl : Span
  keyTimeout : Span
  /-- How many seconds clocks may differ. -/
  leeway : Span
  host : IpAddress
  port : Nat
  internalPort : Nat
  logFormat : LogFormat
  deriving DecidableEq

namespace Settings

/-- Where variables are looked up. -/
abbrev Lookup := String → Option String

/-- The value of a variable that is set and not blank. -/
def given? (lookup : Lookup) (name : String) : Option String :=
  (lookup name).filter fun value => !Text.isBlankText value

/-- The setting that a variable gives, or the default. -/
def setting {α : Type} (lookup : Lookup) (name : String) (fallback : α)
    (read : String → Except String α) : Except SettingFault α :=
  match given? lookup name with
  | none => .ok fallback
  | some value => (read value).mapError fun reason => ⟨name, value, reason⟩

/-- The address that a value gives. -/
def readUrl (value : String) : Except String (Option Url) :=
  match Url.parse (Text.trim value) with
  | .ok url => .ok (some url)
  | .error fault => .error fault.message

/-- The internet address that a value gives. -/
def readHost (value : String) : Except String IpAddress :=
  match IpAddress.parse? (Text.trim value) with
  | some address => .ok address
  | none => .error "invalid IP address syntax"

/-- The number below `limit` that a value gives. -/
def readNumber (limit : Nat) (value : String) : Except String Nat :=
  (DecimalText.parse limit (Text.trim value)).mapError DecimalFault.message

/-- The number of seconds that a value gives. -/
def readSeconds (value : String) : Except String Span :=
  (readNumber 0x10000000000000000 value).map Span.ofSeconds

/-- The variables that are looked up. -/
def variableNames : List String :=
  ["IMAS_URL", "HOST", "LOG_FORMAT", "JWKS_TTL_SECS", "JWKS_TIMEOUT_SECS", "TOKEN_LEEWAY_SECS",
    "PORT", "INTERNAL_PORT"]

/-- The settings that the variables give. -/
def ofLookup (lookup : Lookup) : Except SettingFault Settings := do
  let serviceUrl ← setting lookup "IMAS_URL" none readUrl
  let host ← setting lookup "HOST" IpAddress.unspecified readHost
  let logFormat ← setting lookup "LOG_FORMAT" .pretty LogFormat.parse
  let keyTtl ← setting lookup "JWKS_TTL_SECS" (.ofSeconds 600) readSeconds
  let keyTimeout ← setting lookup "JWKS_TIMEOUT_SECS" (.ofSeconds 10) readSeconds
  let leeway ← setting lookup "TOKEN_LEEWAY_SECS" (.ofSeconds 60) readSeconds
  let port ← setting lookup "PORT" 8081 (readNumber 0x10000)
  let internalPort ← setting lookup "INTERNAL_PORT" 8090 (readNumber 0x10000)
  pure ⟨serviceUrl, keyTtl, keyTimeout, leeway, host, port, internalPort, logFormat⟩

/-- Where calls are served. -/
def publicAddress (settings : Settings) : String :=
  settings.host.withPort settings.port

/-- Where health and metrics are shown. -/
def internalAddress (settings : Settings) : String :=
  settings.host.withPort settings.internalPort

/-- Where the key set is fetched from, if there is an identity service. -/
def keyEndpoint? (settings : Settings) : Option String :=
  settings.serviceUrl.map fun url => jwksEndpoint url.text

end Settings

end BearerGate
