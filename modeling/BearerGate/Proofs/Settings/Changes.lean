import BearerGate.Proofs.Settings.Variables
import BearerGate.Proofs.Text.Trim

/-!
# Settings variable by variable

Settings are read from one variable after the other (`ofLookup_readOneByOne`). So another value that
can be used for a variable changes what that variable gives and nothing else (`SameBut`), and a
number is never replaced by another one: it is set as it is written, or refused.
-/

namespace BearerGate.Settings

/-! ## Another value for one variable -/

/-- The lookup with another value for a variable. -/
def put (lookup : Lookup) (var : Variable) (value : String) : Lookup := fun name =>
  if name = var.name then some value else lookup name

theorem put_name (lookup : Lookup) (var : Variable) (value : String) :
    put lookup var value var.name = some value :=
  if_pos rfl

theorem put_of_ne {lookup : Lookup} {var : Variable} (other : Variable) (apart : var ≠ other)
    (value : String) : put lookup var value other.name = lookup other.name :=
  if_neg fun same => apart (Variable.name_injective same).symm

/-- The settings are the same but for what a variable gives. The host is a part of both addresses
that are served, and their ports are not changed with it. -/
structure SameBut (var : Variable) (settings changed : Settings) : Prop where
  serviceUrl : var ≠ .serviceUrl → changed.serviceUrl = settings.serviceUrl
  host : var ≠ .host → changed.host = settings.host
  logFormat : var ≠ .logFormat → changed.logFormat = settings.logFormat
  keyTtl : var ≠ .keyTtl → changed.keyTtl = settings.keyTtl
  keyTimeout : var ≠ .keyTimeout → changed.keyTimeout = settings.keyTimeout
  leeway : var ≠ .leeway → changed.leeway = settings.leeway
  port : var ≠ .port → changed.port = settings.port
  internalPort : var ≠ .internalPort → changed.internalPort = settings.internalPort
  publicAddress : var ≠ .port →
    changed.publicAddress = (if var = .host then changed else settings).host.withPort settings.port
  internalAddress : var ≠ .internalPort → changed.internalAddress =
    (if var = .host then changed else settings).host.withPort settings.internalPort

theorem Gives.eq_of_lookup_eq {α : Type} {lookup other : Lookup} {name : String} {fallback x y : α}
    {read : String → Except String α} {Denotes : String → α → Prop}
    (reads : ∀ value x, read value = .ok x ↔ Denotes value x)
    (left : Gives lookup name fallback Denotes x) (right : Gives other name fallback Denotes y)
    (same : lookup name = other name) : x = y := by
  have here := (setting_eq_ok_iff reads).mpr left
  have there := (setting_eq_ok_iff reads).mpr right
  unfold setting given? at here there
  rw [same, there] at here
  exact (Except.ok.inj here).symm

theorem ReadFrom.sameBut {lookup : Lookup} {var : Variable} {value : String}
    {settings changed : Settings} (before : settings.ReadFrom lookup)
    (after : changed.ReadFrom (put lookup var value)) : SameBut var settings changed := by
  have port := readNumber_eq_ok_iff portLimit (by decide)
  have hosts : var ≠ .host → changed.host = settings.host := fun other =>
    after.host.eq_of_lookup_eq readHost_eq_ok_iff before.host
      (put_of_ne .host other value)
  have ports : var ≠ .port → changed.port = settings.port := fun other =>
    after.port.eq_of_lookup_eq port before.port (put_of_ne .port other value)
  have internalPorts : var ≠ .internalPort → changed.internalPort = settings.internalPort :=
    fun other => after.internalPort.eq_of_lookup_eq port before.internalPort
      (put_of_ne .internalPort other value)
  have address : (if var = .host then changed else settings).host = changed.host := by
    split
    · rfl
    · next other => exact (hosts other).symm
  exact
    { serviceUrl := fun other => after.serviceUrl.eq_of_lookup_eq readUrl_eq_ok_iff
        before.serviceUrl (put_of_ne .serviceUrl other value)
      host := hosts
      logFormat := fun other => after.logFormat.eq_of_lookup_eq
        (fun _ _ => LogFormat.parse_eq_ok_iff) before.logFormat
        (put_of_ne .logFormat other value)
      keyTtl := fun other => after.keyTtl.eq_of_lookup_eq readSeconds_eq_ok_iff before.keyTtl
        (put_of_ne .keyTtl other value)
      keyTimeout := fun other => after.keyTimeout.eq_of_lookup_eq readSeconds_eq_ok_iff
        before.keyTimeout (put_of_ne .keyTimeout other value)
      leeway := fun other => after.leeway.eq_of_lookup_eq readSeconds_eq_ok_iff before.leeway
        (put_of_ne .leeway other value)
      port := ports
      internalPort := internalPorts
      publicAddress := fun other => by rw [address, ← ports other]; rfl
      internalAddress := fun other => by rw [address, ← internalPorts other]; rfl }

/-! ## The settings as a whole -/

/-- The number that a variable sets, if it sets one. -/
def number? (settings : Settings) : Variable → Option Nat
  | .keyTtl => some settings.keyTtl.seconds
  | .keyTimeout => some settings.keyTimeout.seconds
  | .leeway => some settings.leeway.seconds
  | .port => some settings.port
  | .internalPort => some settings.internalPort
  | .serviceUrl | .host | .logFormat => none

/-- How settings are read from a lookup. -/
structure ReadOneByOne (lookup : Lookup) : Prop where
  /-- There are settings if each variable on its own is not set, blank, or has a value that it
  accepts. -/
  accepted : (∃ settings, ofLookup lookup = .ok settings) ↔ ∀ var : Variable, var.Usable lookup
  /-- Each of them is what its variable gives. -/
  given : ∀ settings, ofLookup lookup = .ok settings ↔ settings.ReadFrom lookup
  /-- Another value that a variable accepts changes nothing but what that variable gives. -/
  changed : ∀ settings var value, ofLookup lookup = .ok settings → var.Accepts value →
    ∃ changed, ofLookup (put lookup var value) = .ok changed ∧ SameBut var settings changed
  /-- A number is set as it is written, or refused if it is too large. -/
  numbers : ∀ var limit value n, var.limit? = some limit → lookup var.name = some value →
    DecimalText.Spells (Text.trim value) n →
      (n < limit → var.Usable lookup ∧
        ∀ settings, ofLookup lookup = .ok settings → settings.number? var = some n) ∧
      (limit ≤ n → ∃ fault, ofLookup lookup = .error fault)
  /-- Refused settings are due to the first variable that is not usable. -/
  refused : ∀ fault, ofLookup lookup = .error fault ↔ FirstRefused lookup fault

theorem seconds_ofSeconds (n : Nat) : (Span.ofSeconds n).seconds = n :=
  Nat.mul_div_cancel n (by decide)

theorem isBlankText_of_spells {value : String} {n : Nat}
    (spelled : DecimalText.Spells (Text.trim value) n) : Text.isBlankText value = false := by
  rw [Bool.eq_false_iff]
  intro blank
  obtain ⟨digits, written, some_digit, -⟩ := spelled.digits
  rw [Text.trim_of_isBlankText blank] at written
  rcases written with plain | signed
  · exact some_digit plain.symm
  · cases signed

/-- A value that spells a number can be used if the number is below the limit. -/
theorem Variable.accepts_iff_of_spells {var : Variable} {limit : Nat}
    (limited : var.limit? = some limit) {value : String} {n : Nat}
    (spelled : DecimalText.Spells (Text.trim value) n) :
    var.Accepts value ↔ n < limit := by
  have number : (∃ m, DenotesNumber limit value m) ↔ n < limit := by
    constructor
    · rintro ⟨m, other, below⟩
      rwa [spelled.unique other]
    · exact fun below => ⟨n, spelled, below⟩
  cases var with
  | serviceUrl | host | logFormat => cases limited
  | keyTtl | keyTimeout | leeway | port | internalPort =>
    cases limited
    exact number

theorem Gives.denotes {α : Type} {lookup : Lookup} {name : String} {fallback x : α}
    {Denotes : String → α → Prop} (gives : Gives lookup name fallback Denotes x) {value : String}
    (set : lookup name = some value) (full : Text.isBlankText value = false) : Denotes value x := by
  cases gives with
  | unset unset => rw [set] at unset; cases unset
  | blank set' blank =>
    rw [set] at set'
    cases set'
    rw [full] at blank
    cases blank
  | value set' _ denoted =>
    rw [set] at set'
    cases set'
    exact denoted

/-- A setting that is a number is the number that is written. -/
theorem ReadFrom.number?_eq {lookup : Lookup} {settings : Settings}
    (given : settings.ReadFrom lookup) {var : Variable} {limit : Nat}
    (limited : var.limit? = some limit) {value : String} (set : lookup var.name = some value)
    {n : Nat} (spelled : DecimalText.Spells (Text.trim value) n) :
    settings.number? var = some n := by
  have full := isBlankText_of_spells spelled
  have seconds : ∀ {span : Span}, DenotesSeconds value span → some span.seconds = some n := by
    rintro span ⟨m, denoted, rfl⟩
    rw [seconds_ofSeconds, denoted.1.unique spelled]
  have port : ∀ {m : Nat}, DenotesNumber portLimit value m → some m = some n :=
    fun denoted => congrArg some (denoted.1.unique spelled)
  cases var with
  | serviceUrl | host | logFormat => cases limited
  | keyTtl => exact seconds (given.keyTtl.denotes set full)
  | keyTimeout => exact seconds (given.keyTimeout.denotes set full)
  | leeway => exact seconds (given.leeway.denotes set full)
  | port => exact port (given.port.denotes set full)
  | internalPort => exact port (given.internalPort.denotes set full)

theorem usable_put {lookup : Lookup} {var : Variable} {value : String}
    (usable : ∀ other : Variable, other.Usable lookup) (accepted : var.Accepts value)
    (other : Variable) : other.Usable (put lookup var value) := by
  intro given set full
  by_cases own : other = var
  · subst own
    rw [put_name] at set
    cases set
    exact accepted
  · rw [put_of_ne other (Ne.symm own)] at set
    exact usable other given set full

theorem exists_fault_of_not_usable {lookup : Lookup} (var : Variable)
    (unusable : ¬ var.Usable lookup) : ∃ fault, ofLookup lookup = .error fault := by
  cases outcome : ofLookup lookup with
  | error fault => exact ⟨fault, rfl⟩
  | ok settings => exact (unusable (exists_ofLookup_iff.mp ⟨settings, outcome⟩ var)).elim

/-- Settings are read variable by variable, and numbers as they are written. -/
theorem ofLookup_readOneByOne (lookup : Lookup) : ReadOneByOne lookup where
  accepted := exists_ofLookup_iff
  given := fun settings => ofLookup_eq_ok_iff
  changed := by
    intro settings var value made accepted
    have usable := exists_ofLookup_iff.mp ⟨settings, made⟩
    obtain ⟨changed, remade⟩ := exists_ofLookup_iff.mpr (usable_put usable accepted)
    exact ⟨changed, remade, (ofLookup_eq_ok_iff.mp made).sameBut (ofLookup_eq_ok_iff.mp remade)⟩
  numbers := by
    intro var limit value n limited set spelled
    have accepts := var.accepts_iff_of_spells limited spelled
    constructor
    · intro below
      refine ⟨fun other set' _ => ?_, fun settings made =>
        (ofLookup_eq_ok_iff.mp made).number?_eq limited set spelled⟩
      rw [set] at set'
      cases set'
      exact accepts.mpr below
    · intro above
      refine exists_fault_of_not_usable var fun usable => ?_
      exact Nat.not_lt.mpr above
        (accepts.mp (usable value set (isBlankText_of_spells spelled)))
  refused := fun fault => ofLookup_eq_error_iff

/-- The greatest number of seconds may have a sign and zeros in front; the next one is refused, and
it is to blame although the port is not usable either. -/
example :
    ((ofLookup fun name => if name = "JWKS_TTL_SECS" then some " +0018446744073709551615"
        else none).toOption.map fun settings => settings.keyTtl.seconds) =
      some 18446744073709551615 ∧
    faultOf (ofLookup fun name => if name = "JWKS_TTL_SECS" then some "18446744073709551616"
        else if name = "PORT" then some "70000" else none) =
      some ⟨"JWKS_TTL_SECS", "18446744073709551616", "number too large to fit in target type"⟩ := by
  decide +kernel

end BearerGate.Settings
