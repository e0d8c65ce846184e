import BearerGate.Settings
import BearerGate.Proofs.Number.DecimalText
import BearerGate.Proofs.Outcome
import Mathlib.Algebra.Group.Nat.Defs

/-!
# Variables one by one

The settings are read from the variables one by one. Each variable is usable or not on its own, and
if all are, each setting is what its own variable gives (`ReadFrom`): the default if it is not set
or blank, and what its value denotes otherwise. The first variable that is not usable is to blame
if the settings are refused (`FirstRefused`).

A number that a variable denotes is the one that is written, whatever its size; if it is too large
for the setting the variable is not usable.
-/

namespace BearerGate

/-- The text is the name of a form of log records, in any case. -/
inductive LogFormat.Names (text : String) : LogFormat → Prop
  | json : Text.lowerText text = "json" → Names text .json
  | pretty : Text.lowerText text = "pretty" → Names text .pretty
  | text : Text.lowerText text = "text" → Names text .pretty

theorem LogFormat.parse_eq_ok_iff {text : String} {format : LogFormat} :
    LogFormat.parse text = .ok format ↔ LogFormat.Names text format := by
  unfold LogFormat.parse
  constructor
  · intro read
    dsimp only at read
    split at read
    · next named =>
      cases read
      exact .json named
    · split at read
      · next named =>
        cases read
        exact named.elim .pretty .text
      · cases read
  · intro names
    cases names with
    | json named => rw [named]; rfl
    | pretty named => rw [named]; rfl
    | text named => rw [named]; rfl

namespace Settings

/-! ## What a variable gives -/

/-- The setting that a variable gives by itself. -/
inductive Gives {α : Type} (lookup : Lookup) (name : String) (fallback : α)
    (Denotes : String → α → Prop) : α → Prop
  | unset : lookup name = none → Gives lookup name fallback Denotes fallback
  | blank {value : String} : lookup name = some value → Text.isBlankText value = true →
    Gives lookup name fallback Denotes fallback
  | value {value : String} {x : α} : lookup name = some value → Text.isBlankText value = false →
    Denotes value x → Gives lookup name fallback Denotes x

/-- The value is an address with blank characters around it. -/
def DenotesUrl (value : String) (url : Option Url) : Prop :=
  ∃ given, Url.parse (Text.trim value) = .ok given ∧ url = some given

/-- The value is an internet address with blank characters around it. -/
def DenotesHost (value : String) (host : IpAddress) : Prop :=
  IpAddress.parse? (Text.trim value) = some host

/-- One more than the greatest number of seconds. -/
def secondsLimit : Nat := 2 ^ 64

/-- One more than the greatest port. -/
def portLimit : Nat := 2 ^ 16

/-- The value is a number below the limit with blank characters around it. -/
def DenotesNumber (limit : Nat) (value : String) (n : Nat) : Prop :=
  DecimalText.Spells (Text.trim value) n ∧ n < limit

/-- The value is a number of seconds. -/
def DenotesSeconds (value : String) (span : Span) : Prop :=
  ∃ n, DenotesNumber secondsLimit value n ∧ span = Span.ofSeconds n

/-- Each of the settings is what its own variable gives. -/
structure ReadFrom (lookup : Lookup) (settings : Settings) : Prop where
  serviceUrl : Gives lookup "IMAS_URL" none DenotesUrl settings.serviceUrl
  host : Gives lookup "HOST" IpAddress.unspecified DenotesHost settings.host
  logFormat : Gives lookup "LOG_FORMAT" .pretty LogFormat.Names settings.logFormat
  keyTtl : Gives lookup "JWKS_TTL_SECS" (.ofSeconds 600) DenotesSeconds settings.keyTtl
  keyTimeout : Gives lookup "JWKS_TIMEOUT_SECS" (.ofSeconds 10) DenotesSeconds settings.keyTimeout
  leeway : Gives lookup "TOKEN_LEEWAY_SECS" (.ofSeconds 60) DenotesSeconds settings.leeway
  port : Gives lookup "PORT" 8081 (DenotesNumber portLimit) settings.port
  internalPort : Gives lookup "INTERNAL_PORT" 8090 (DenotesNumber portLimit) settings.internalPort

section Reading

variable {α : Type} {lookup : Lookup} {name : String} {fallback : α}
  {read : String → Except String α} {Denotes : String → α → Prop}

theorem given?_eq_some_iff {value : String} :
    given? lookup name = some value ↔
      lookup name = some value ∧ Text.isBlankText value = false := by
  unfold given?
  rw [Option.filter_eq_some_iff]
  simp

theorem given?_eq_none_iff :
    given? lookup name = none ↔
      lookup name = none ∨ ∃ value, lookup name = some value ∧ Text.isBlankText value = true := by
  unfold given?
  cases lookup name with
  | none => simp
  | some value => simp [Option.filter_some]

theorem setting_eq_ok_iff (reads : ∀ value x, read value = .ok x ↔ Denotes value x) {x : α} :
    setting lookup name fallback read = .ok x ↔ Gives lookup name fallback Denotes x := by
  unfold setting
  constructor
  · intro made
    cases given : given? lookup name with
    | none =>
      rw [given] at made
      cases made
      rcases given?_eq_none_iff.mp given with unset | ⟨value, set, blank⟩
      · exact .unset unset
      · exact .blank set blank
    | some value =>
      obtain ⟨set, full⟩ := given?_eq_some_iff.mp given
      rw [given] at made
      dsimp only at made
      cases outcome : read value with
      | error reason =>
        rw [outcome] at made
        cases made
      | ok result =>
        rw [outcome] at made
        cases made
        exact .value set full ((reads value x).mp outcome)
  · intro gives
    cases gives with
    | unset unset => rw [given?_eq_none_iff.mpr (.inl unset)]
    | blank set blank => rw [given?_eq_none_iff.mpr (.inr ⟨_, set, blank⟩)]
    | value set full denoted =>
      rw [given?_eq_some_iff.mpr ⟨set, full⟩]
      dsimp only
      rw [(reads _ _).mpr denoted]
      rfl

/-- What is wrong with a variable is wrong with its value. -/
theorem faultOf_setting :
    faultOf (setting lookup name fallback read) = (given? lookup name).bind fun value =>
      (faultOf (read value)).map fun reason => ⟨name, value, reason⟩ := by
  unfold setting
  cases given? lookup name with
  | none => rfl
  | some value =>
    dsimp only [Option.bind]
    cases read value with
    | error reason => rfl
    | ok result => rfl

end Reading

theorem readUrl_eq_ok_iff (value : String) (url : Option Url) :
    readUrl value = .ok url ↔ DenotesUrl value url := by
  unfold readUrl DenotesUrl
  cases Url.parse (Text.trim value) with
  | error fault => simp
  | ok given => simp [eq_comm]

theorem readHost_eq_ok_iff (value : String) (host : IpAddress) :
    readHost value = .ok host ↔ DenotesHost value host := by
  unfold readHost DenotesHost
  cases IpAddress.parse? (Text.trim value) with
  | none => simp
  | some given => simp

theorem readNumber_eq_ok_iff (limit : Nat) (positive : 0 < limit) (value : String) (n : Nat) :
    readNumber limit value = .ok n ↔ DenotesNumber limit value n := by
  unfold readNumber DenotesNumber
  rw [← DecimalText.parse_eq_ok_iff positive]
  cases DecimalText.parse limit (Text.trim value) with
  | error fault => exact ⟨nofun, nofun⟩
  | ok given =>
    constructor
    · rintro ⟨⟩
      rfl
    · rintro ⟨⟩
      rfl

theorem readSeconds_eq_ok_iff (value : String) (span : Span) :
    readSeconds value = .ok span ↔ DenotesSeconds value span := by
  have number := readNumber_eq_ok_iff secondsLimit (by decide) value
  unfold readSeconds DenotesSeconds
  change (readNumber secondsLimit value).map Span.ofSeconds = .ok span ↔ _
  cases read : readNumber secondsLimit value with
  | error reason =>
    constructor
    · intro made
      cases made
    · rintro ⟨n, denoted, -⟩
      rw [← number, read] at denoted
      cases denoted
  | ok n =>
    constructor
    · intro made
      cases made
      exact ⟨n, (number n).mp read, rfl⟩
    · rintro ⟨m, denoted, rfl⟩
      rw [← number, read] at denoted
      cases denoted
      rfl

/-! ## The variables -/

/-- The variables that settings are read from. -/
inductive Variable
  | serviceUrl
  | host
  | logFormat
  | keyTtl
  | keyTimeout
  | leeway
  | port
  | internalPort
  deriving DecidableEq

namespace Variable

/-- The name of a variable. -/
def name : Variable → String
  | .serviceUrl => "IMAS_URL"
  | .host => "HOST"
  | .logFormat => "LOG_FORMAT"
  | .keyTtl => "JWKS_TTL_SECS"
  | .keyTimeout => "JWKS_TIMEOUT_SECS"
  | .leeway => "TOKEN_LEEWAY_SECS"
  | .port => "PORT"
  | .internalPort => "INTERNAL_PORT"

/-- The variables in the order in which they are read. -/
def inOrder : List Variable :=
  [.serviceUrl, .host, .logFormat, .keyTtl, .keyTimeout, .leeway, .port, .internalPort]

example : inOrder.map name = variableNames := rfl

theorem mem_inOrder (var : Variable) : var ∈ inOrder := by
  cases var with
  | serviceUrl | host | logFormat | keyTtl | keyTimeout | leeway | port | internalPort => decide

theorem name_injective {var other : Variable} (same : var.name = other.name) :
    var = other := by
  revert same
  cases var <;> cases other <;> decide

/-- The limit of the numbers that a variable may denote, if it denotes numbers. -/
def limit? : Variable → Option Nat
  | .keyTtl | .keyTimeout | .leeway => some secondsLimit
  | .port | .internalPort => some portLimit
  | .serviceUrl | .host | .logFormat => none

/-- Whether a value that is not blank can be used for a variable. -/
def Accepts : Variable → String → Prop
  | .serviceUrl, value => ∃ url, Url.parse (Text.trim value) = .ok url
  | .host, value => ∃ host, IpAddress.parse? (Text.trim value) = some host
  | .logFormat, value => ∃ format, LogFormat.Names value format
  | .keyTtl, value | .keyTimeout, value | .leeway, value => ∃ n, DenotesNumber secondsLimit value n
  | .port, value | .internalPort, value => ∃ n, DenotesNumber portLimit value n

/-- A variable that is not set, or blank, or whose value can be used. -/
def Usable (lookup : Lookup) (var : Variable) : Prop :=
  ∀ value, lookup var.name = some value → Text.isBlankText value = false →
    var.Accepts value

/-- The wording of the refusal of a value. -/
def refusal? : Variable → String → Option String
  | .serviceUrl, value => faultOf (readUrl value)
  | .host, value => faultOf (readHost value)
  | .logFormat, value => faultOf (LogFormat.parse value)
  | .keyTtl, value | .keyTimeout, value | .leeway, value => faultOf (readSeconds value)
  | .port, value | .internalPort, value => faultOf (readNumber portLimit value)

theorem refusal?_eq_none_iff {var : Variable} {value : String} :
    var.refusal? value = none ↔ var.Accepts value := by
  have url : faultOf (readUrl value) = none ↔ ∃ url, Url.parse (Text.trim value) = .ok url := by
    rw [faultOf_eq_none_iff]
    constructor
    · rintro ⟨url, made⟩
      obtain ⟨given, parsed, -⟩ := (readUrl_eq_ok_iff value url).mp made
      exact ⟨given, parsed⟩
    · rintro ⟨given, parsed⟩
      exact ⟨_, (readUrl_eq_ok_iff value _).mpr ⟨given, parsed, rfl⟩⟩
  have host : faultOf (readHost value) = none ↔
      ∃ host, IpAddress.parse? (Text.trim value) = some host := by
    rw [faultOf_eq_none_iff]
    exact exists_congr fun host => readHost_eq_ok_iff value host
  have seconds : faultOf (readSeconds value) = none ↔ ∃ n, DenotesNumber secondsLimit value n := by
    rw [faultOf_eq_none_iff]
    constructor
    · rintro ⟨span, made⟩
      obtain ⟨n, denoted, -⟩ := (readSeconds_eq_ok_iff value span).mp made
      exact ⟨n, denoted⟩
    · rintro ⟨n, denoted⟩
      exact ⟨_, (readSeconds_eq_ok_iff value _).mpr ⟨n, denoted, rfl⟩⟩
  have number : faultOf (readNumber portLimit value) = none ↔
      ∃ n, DenotesNumber portLimit value n := by
    rw [faultOf_eq_none_iff]
    exact exists_congr fun n => readNumber_eq_ok_iff portLimit (by decide) value n
  have format :
      faultOf (LogFormat.parse value) = none ↔ ∃ format, LogFormat.Names value format := by
    rw [faultOf_eq_none_iff]
    exact exists_congr fun format => LogFormat.parse_eq_ok_iff
  cases var with
  | serviceUrl => exact url
  | host => exact host
  | logFormat => exact format
  | keyTtl | keyTimeout | leeway => exact seconds
  | port | internalPort => exact number

/-- What is wrong with a variable, if anything is. -/
def fault? (lookup : Lookup) (var : Variable) : Option SettingFault :=
  (given? lookup var.name).bind fun value =>
    (var.refusal? value).map fun reason => ⟨var.name, value, reason⟩

/-- A variable whose value cannot be used is to blame with the value as it was given. -/
structure Refused (lookup : Lookup) (var : Variable) (fault : SettingFault) : Prop where
  named : fault.name = var.name
  value : lookup var.name = some fault.value
  full : Text.isBlankText fault.value = false
  unaccepted : ¬ var.Accepts fault.value
  reason : var.refusal? fault.value = some fault.reason

variable {lookup : Lookup} {var : Variable}

theorem fault?_eq_some_iff {fault : SettingFault} :
    var.fault? lookup = some fault ↔ var.Refused lookup fault := by
  unfold fault?
  constructor
  · intro found
    obtain ⟨value, given, refused⟩ := Option.bind_eq_some_iff.mp found
    obtain ⟨reason, worded, rfl⟩ := Option.map_eq_some_iff.mp refused
    obtain ⟨set, full⟩ := given?_eq_some_iff.mp given
    refine ⟨rfl, set, full, fun accepted => ?_, worded⟩
    rw [refusal?_eq_none_iff.mpr accepted] at worded
    cases worded
  · rintro ⟨named, set, full, -, worded⟩
    rw [given?_eq_some_iff.mpr ⟨set, full⟩, Option.bind_some, worded, Option.map_some, ← named]

theorem fault?_eq_none_iff : var.fault? lookup = none ↔ var.Usable lookup := by
  unfold fault? Usable
  cases given : given? lookup var.name with
  | none =>
    refine iff_of_true rfl fun value set full => ?_
    rw [given?_eq_some_iff.mpr ⟨set, full⟩] at given
    cases given
  | some value =>
    obtain ⟨set, full⟩ := given?_eq_some_iff.mp given
    rw [Option.bind_some, Option.map_eq_none_iff, refusal?_eq_none_iff]
    constructor
    · intro accepted other set' _
      rw [set] at set'
      cases set'
      exact accepted
    · intro usable
      exact usable value set full

end Variable

/-! ## All settings -/

/-- The first variable that is not usable is to blame. -/
def FirstRefused (lookup : Lookup) (fault : SettingFault) : Prop :=
  ∃ earlier var later, Variable.inOrder = earlier ++ var :: later ∧
    (∀ other ∈ earlier, other.Usable lookup) ∧ var.Refused lookup fault

theorem faultOf_ofLookup (lookup : Lookup) :
    faultOf (ofLookup lookup) = Variable.inOrder.findSome? (·.fault? lookup) :=
  faultOf_bind faultOf_setting fun _ => faultOf_bind faultOf_setting fun _ =>
    faultOf_bind faultOf_setting fun _ => faultOf_bind faultOf_setting fun _ =>
      faultOf_bind faultOf_setting fun _ => faultOf_bind faultOf_setting fun _ =>
        faultOf_bind faultOf_setting fun _ => faultOf_bind faultOf_setting fun _ => rfl

theorem ofLookup_eq_ok_iff {lookup : Lookup} {settings : Settings} :
    ofLookup lookup = .ok settings ↔ settings.ReadFrom lookup := by
  have port := readNumber_eq_ok_iff portLimit (by decide)
  constructor
  · intro made
    obtain ⟨serviceUrl, url, made⟩ := bind_eq_ok_iff.mp made
    obtain ⟨host, address, made⟩ := bind_eq_ok_iff.mp made
    obtain ⟨logFormat, format, made⟩ := bind_eq_ok_iff.mp made
    obtain ⟨keyTtl, ttl, made⟩ := bind_eq_ok_iff.mp made
    obtain ⟨keyTimeout, timeout, made⟩ := bind_eq_ok_iff.mp made
    obtain ⟨leeway, skew, made⟩ := bind_eq_ok_iff.mp made
    obtain ⟨publicPort, outer, made⟩ := bind_eq_ok_iff.mp made
    obtain ⟨internalPort, inner, made⟩ := bind_eq_ok_iff.mp made
    cases made
    exact ⟨(setting_eq_ok_iff readUrl_eq_ok_iff).mp url,
      (setting_eq_ok_iff readHost_eq_ok_iff).mp address,
      (setting_eq_ok_iff fun _ _ => LogFormat.parse_eq_ok_iff).mp format,
      (setting_eq_ok_iff readSeconds_eq_ok_iff).mp ttl,
      (setting_eq_ok_iff readSeconds_eq_ok_iff).mp timeout,
      (setting_eq_ok_iff readSeconds_eq_ok_iff).mp skew, (setting_eq_ok_iff port).mp outer,
      (setting_eq_ok_iff port).mp inner⟩
  · intro given
    refine bind_eq_ok_iff.mpr ⟨_, (setting_eq_ok_iff readUrl_eq_ok_iff).mpr given.serviceUrl, ?_⟩
    refine bind_eq_ok_iff.mpr ⟨_, (setting_eq_ok_iff readHost_eq_ok_iff).mpr given.host, ?_⟩
    refine bind_eq_ok_iff.mpr
      ⟨_, (setting_eq_ok_iff fun _ _ => LogFormat.parse_eq_ok_iff).mpr given.logFormat, ?_⟩
    refine bind_eq_ok_iff.mpr ⟨_, (setting_eq_ok_iff readSeconds_eq_ok_iff).mpr given.keyTtl, ?_⟩
    refine bind_eq_ok_iff.mpr
      ⟨_, (setting_eq_ok_iff readSeconds_eq_ok_iff).mpr given.keyTimeout, ?_⟩
    refine bind_eq_ok_iff.mpr ⟨_, (setting_eq_ok_iff readSeconds_eq_ok_iff).mpr given.leeway, ?_⟩
    refine bind_eq_ok_iff.mpr ⟨_, (setting_eq_ok_iff port).mpr given.port, ?_⟩
    exact bind_eq_ok_iff.mpr ⟨_, (setting_eq_ok_iff port).mpr given.internalPort, rfl⟩

/-- The settings are refused because of the first variable that is not usable. -/
theorem ofLookup_eq_error_iff {lookup : Lookup} {fault : SettingFault} :
    ofLookup lookup = .error fault ↔ FirstRefused lookup fault := by
  rw [← faultOf_eq_some_iff, faultOf_ofLookup, List.findSome?_eq_some_iff]
  unfold FirstRefused
  simp only [Variable.fault?_eq_some_iff, Variable.fault?_eq_none_iff]
  constructor
  · rintro ⟨earlier, var, later, split, refused, usable⟩
    exact ⟨earlier, var, later, split, usable, refused⟩
  · rintro ⟨earlier, var, later, split, usable, refused⟩
    exact ⟨earlier, var, later, split, refused, usable⟩

theorem exists_ofLookup_iff {lookup : Lookup} :
    (∃ settings, ofLookup lookup = .ok settings) ↔ ∀ var : Variable, var.Usable lookup := by
  rw [← faultOf_eq_none_iff, faultOf_ofLookup, List.findSome?_eq_none_iff]
  simp only [Variable.fault?_eq_none_iff]
  exact ⟨fun all var => all var var.mem_inOrder, fun all var _ => all var⟩

end Settings

end BearerGate
