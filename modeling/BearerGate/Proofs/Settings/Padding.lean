import BearerGate.Proofs.Settings.Changes
import Mathlib.Data.Bool.AllAny

/-!
# Blank characters around the values of variables

Blank characters around a value do not count: with them or without them the settings are the same,
or are refused because of the same variable (`Alike`). This holds for all variables but the one for
the form of log records, whose value is read as it stands. With a blank character at either end of
it there are no settings at all, unless it is blank altogether.
-/

namespace BearerGate

/-- A name of a form has no blank characters in it. -/
theorem LogFormat.Names.trim_eq {text : String} {format : LogFormat}
    (names : LogFormat.Names text format) : Text.trim text = text := by
  refine Text.trim_eq_self ?_
  cases names with
  | json lowered =>
    exact Text.solid_of_lowerText lowered (List.all_iff_forall_prop.mp (by decide))
  | pretty lowered =>
    exact Text.solid_of_lowerText lowered (List.all_iff_forall_prop.mp (by decide))
  | text lowered =>
    exact Text.solid_of_lowerText lowered (List.all_iff_forall_prop.mp (by decide))

namespace Settings

/-- What two variables give that differ in blank characters at the ends of their values, if at
all. -/
inductive RepaddedValue : Option String → Option String → Prop
  | same (value : Option String) : RepaddedValue value value
  | repadded {value other : String} : Text.Repadded value other →
    RepaddedValue (some value) (some other)

theorem RepaddedValue.symm {value other : Option String} (repadded : RepaddedValue value other) :
    RepaddedValue other value := by
  cases repadded with
  | same => exact .same value
  | repadded same => exact .repadded same.symm

/-- The same settings, or refusals because of the same variable. -/
def Alike : Except SettingFault Settings → Except SettingFault Settings → Prop
  | .ok settings, .ok other => settings = other
  | .error fault, .error other => fault.name = other.name
  | .ok _, .error _ | .error _, .ok _ => False

/-- The lookups differ in blank characters at the ends of values at most, and not in the form of log
records unless it is blank. -/
structure RepadsAllButFormat (lookup other : Lookup) : Prop where
  repadded : ∀ var : Variable, RepaddedValue (lookup var.name) (other var.name)
  format : ∀ value, lookup Variable.logFormat.name = some value →
    Text.isBlankText value = false → other Variable.logFormat.name = some value

theorem RepadsAllButFormat.symm {lookup other : Lookup} (repads : RepadsAllButFormat lookup other) :
    RepadsAllButFormat other lookup := by
  refine ⟨fun var => (repads.repadded var).symm, fun value set full => ?_⟩
  have here := repads.repadded .logFormat
  rw [set] at here
  generalize given : lookup Variable.logFormat.name = before at here
  cases here with
  | same => rfl
  | @repadded value' _ same =>
    rw [← Text.isBlankText_eq_of_repadded same] at full
    have kept := repads.format value' given full
    rw [set] at kept
    exact kept.symm

section Repadded

variable {lookup other : Lookup}

theorem Gives.repadded {α : Type} {name : String} {fallback x : α} {Denotes : String → α → Prop}
    (gives : Gives lookup name fallback Denotes x)
    (repadded : RepaddedValue (lookup name) (other name))
    (kept : ∀ value padded, lookup name = some value → other name = some padded →
      Text.Repadded value padded → Text.isBlankText value = false → Denotes value x →
        Denotes padded x) : Gives other name fallback Denotes x := by
  generalize before : lookup name = left at repadded
  generalize after : other name = right at repadded
  cases repadded with
  | same =>
    cases gives with
    | unset unset => exact .unset (by rw [after, ← before, unset])
    | blank set blank => exact .blank (by rw [after, ← before, set]) blank
    | value set full denoted => exact .value (by rw [after, ← before, set]) full denoted
  | @repadded value padded same =>
    have blanks := Text.isBlankText_eq_of_repadded same
    cases gives with
    | unset unset => rw [unset] at before; cases before
    | blank set blank =>
      rw [set] at before
      cases before
      exact .blank after (blanks ▸ blank)
    | value set full denoted =>
      rw [set] at before
      cases before
      exact .value after (blanks ▸ full) (kept value padded set after same full denoted)

theorem Gives.retrimmed {α : Type} {name : String} {fallback x : α} {Denotes : String → α → Prop}
    (gives : Gives lookup name fallback Denotes x)
    (repadded : RepaddedValue (lookup name) (other name))
    (trimmed : ∀ value padded, Text.trim value = Text.trim padded → Denotes value x →
      Denotes padded x) : Gives other name fallback Denotes x :=
  gives.repadded repadded fun value padded _ _ same _ denoted =>
    trimmed value padded (Text.trim_eq_of_repadded same) denoted

/-- Settings do not hang on blank characters. -/
theorem ReadFrom.repadded {settings : Settings} (given : settings.ReadFrom lookup)
    (repads : RepadsAllButFormat lookup other) : settings.ReadFrom other := by
  have host : ∀ {value padded : String} {host : IpAddress}, Text.trim value = Text.trim padded →
      DenotesHost value host → DenotesHost padded host := by
    intro value padded host same parsed
    unfold DenotesHost
    rwa [← same]
  have seconds : ∀ {value padded : String} {span : Span}, Text.trim value = Text.trim padded →
      DenotesSeconds value span → DenotesSeconds padded span := by
    rintro value padded span same ⟨n, ⟨spelled, below⟩, rfl⟩
    exact ⟨n, ⟨same ▸ spelled, below⟩, rfl⟩
  have port : ∀ {value padded : String} {n : Nat}, Text.trim value = Text.trim padded →
      DenotesNumber portLimit value n → DenotesNumber portLimit padded n :=
    fun same denoted => ⟨same ▸ denoted.1, denoted.2⟩
  have format : Gives other "LOG_FORMAT" .pretty LogFormat.Names settings.logFormat := by
    refine given.logFormat.repadded (repads.repadded .logFormat) ?_
    intro value padded set set' _ full names
    have kept := repads.format value set full
    rw [show other Variable.logFormat.name = some padded from set'] at kept
    cases kept
    exact names
  exact
    { serviceUrl := given.serviceUrl.retrimmed (repads.repadded .serviceUrl)
        fun _ _ same ⟨url, parsed, is⟩ => ⟨url, same ▸ parsed, is⟩
      host := given.host.retrimmed (repads.repadded .host) fun _ _ => host
      logFormat := format
      keyTtl := given.keyTtl.retrimmed (repads.repadded .keyTtl) fun _ _ => seconds
      keyTimeout := given.keyTimeout.retrimmed (repads.repadded .keyTimeout) fun _ _ => seconds
      leeway := given.leeway.retrimmed (repads.repadded .leeway) fun _ _ => seconds
      port := given.port.retrimmed (repads.repadded .port) fun _ _ => port
      internalPort := given.internalPort.retrimmed (repads.repadded .internalPort) fun _ _ => port }

theorem Variable.Accepts.retrimmed {var : Variable} (other : var ≠ .logFormat)
    {value padded : String} (same : Text.trim value = Text.trim padded)
    (accepted : var.Accepts value) : var.Accepts padded := by
  cases var with
  | logFormat => exact (other rfl).elim
  | serviceUrl =>
    obtain ⟨url, parsed⟩ := accepted
    exact ⟨url, same ▸ parsed⟩
  | host =>
    obtain ⟨host, parsed⟩ := accepted
    exact ⟨host, same ▸ parsed⟩
  | keyTtl | keyTimeout | leeway | port | internalPort =>
    obtain ⟨n, spelled, below⟩ := accepted
    exact ⟨n, same ▸ spelled, below⟩

/-- Whether a variable is usable does not hang on blank characters. -/
theorem Variable.Usable.repadded {var : Variable} (usable : var.Usable lookup)
    (repads : RepadsAllButFormat lookup other) : var.Usable other := by
  intro padded set' full
  have repadded := repads.repadded var
  rw [set'] at repadded
  generalize set : lookup var.name = given at repadded
  cases repadded with
  | same => exact usable padded set full
  | @repadded value _ same =>
    rw [← Text.isBlankText_eq_of_repadded same] at full
    have accepted := usable value set full
    by_cases format : var = .logFormat
    · subst format
      have kept := repads.format value set full
      rw [set'] at kept
      cases kept
      exact accepted
    · exact accepted.retrimmed format (Text.trim_eq_of_repadded same)

theorem FirstRefused.repadded {fault : SettingFault} (first : FirstRefused lookup fault)
    (repads : RepadsAllButFormat lookup other) :
    ∃ fault', FirstRefused other fault' ∧ fault.name = fault'.name := by
  obtain ⟨earlier, var, later, split, usable, refused⟩ := first
  have unusable : ¬ var.Usable other := by
    intro usable'
    exact refused.unaccepted (usable'.repadded repads.symm fault.value refused.value refused.full)
  rw [← Variable.fault?_eq_none_iff] at unusable
  obtain ⟨fault', found⟩ := Option.ne_none_iff_exists'.mp unusable
  have refused' := Variable.fault?_eq_some_iff.mp found
  exact ⟨fault', ⟨earlier, var, later, split, fun before member =>
    (usable before member).repadded repads, refused'⟩, refused.named.trans refused'.named.symm⟩

theorem alike_of_repads (repads : RepadsAllButFormat lookup other) :
    Alike (ofLookup lookup) (ofLookup other) := by
  cases outcome : ofLookup lookup with
  | ok settings =>
    have remade := ofLookup_eq_ok_iff.mpr ((ofLookup_eq_ok_iff.mp outcome).repadded repads)
    rw [remade]
    rfl
  | error fault =>
    obtain ⟨fault', first, same⟩ := (ofLookup_eq_error_iff.mp outcome).repadded repads
    rw [ofLookup_eq_error_iff.mpr first]
    exact same

end Repadded

/-! ## The form of log records -/

/-- With blank characters at an end of the form of log records there are no settings. -/
theorem exists_fault_of_padded_format {lookup : Lookup} {value : String}
    (set : lookup Variable.logFormat.name = some value) (full : Text.isBlankText value = false)
    (padded : Text.trim value ≠ value) :
    ∃ fault, ofLookup lookup = .error fault ∧
      (fault.name = "IMAS_URL" ∨ fault.name = "HOST" ∨
        fault.name = "LOG_FORMAT" ∧ fault.value = value) := by
  have unusable : ¬ Variable.logFormat.Usable lookup := by
    intro usable
    obtain ⟨format, names⟩ := usable value set full
    exact padded names.trim_eq
  obtain ⟨fault, refused⟩ := exists_fault_of_not_usable _ unusable
  refine ⟨fault, refused, ?_⟩
  obtain ⟨earlier, var, later, split, usable, due⟩ := ofLookup_eq_error_iff.mp refused
  unfold Variable.inOrder at split
  match earlier, split, usable with
  | [], split, _ =>
    cases split
    exact .inl due.named
  | [_], split, _ =>
    cases split
    exact .inr (.inl due.named)
  | [_, _], split, _ =>
    cases split
    have given := due.value
    rw [set] at given
    exact .inr (.inr ⟨due.named, (Option.some.inj given).symm⟩)
  | _ :: _ :: third :: _, split, usable =>
    -- The form of log records is read before such a variable, so it would be usable.
    have format : Variable.logFormat = third :=
      (List.cons.inj (List.cons.inj (List.cons.inj split).2).2).1
    exact (unusable (usable .logFormat (by simp [format]))).elim

/-- Blank characters at the ends of values do not change the settings, nor which variable refuses
them, as long as the form of log records is left alone. At the ends of that they refuse the
settings. -/
theorem ofLookup_repadded {lookup other : Lookup}
    (repadded : ∀ var : Variable, RepaddedValue (lookup var.name) (other var.name)) :
    ((∀ value, lookup Variable.logFormat.name = some value → Text.isBlankText value = false →
        other Variable.logFormat.name = some value) → Alike (ofLookup lookup) (ofLookup other)) ∧
      ∀ value, other Variable.logFormat.name = some value → Text.isBlankText value = false →
        Text.trim value ≠ value → ∃ fault, ofLookup other = .error fault ∧
          (fault.name = "IMAS_URL" ∨ fault.name = "HOST" ∨
            fault.name = "LOG_FORMAT" ∧ fault.value = value) :=
  ⟨fun format => alike_of_repads ⟨repadded, format⟩,
    fun _ set full padded => exists_fault_of_padded_format set full padded⟩

/-- A lookup of a host and the form of log records. -/
def hostAndFormat (host format : String) : Lookup := fun name =>
  List.lookup name [(Variable.host.name, host), (Variable.logFormat.name, format)]

theorem hostAndFormat_repadded {host host' format format' : String}
    (hosts : Text.Repadded host host') (formats : Text.Repadded format format') (var : Variable) :
    RepaddedValue (hostAndFormat host format var.name) (hostAndFormat host' format' var.name) := by
  cases var with
  | host => exact .repadded hosts
  | logFormat => exact .repadded formats
  | serviceUrl | keyTtl | keyTimeout | leeway | port | internalPort => exact .same none

theorem spaced_host : Text.Repadded " ::1\t" "::1" :=
  (Text.repadded_of_pads ⟨[' '], ['\t'], List.all_eq_true.mp (by decide),
    List.all_eq_true.mp (by decide), by decide⟩).symm

theorem spaced_json : Text.Repadded "json" " json" :=
  Text.repadded_of_pads ⟨[' '], [], List.all_eq_true.mp (by decide),
    List.all_eq_true.mp (by decide), by decide⟩

theorem ofLookup_repadded_host :
    Alike (ofLookup (hostAndFormat " ::1\t" "json")) (ofLookup (hostAndFormat "::1" "json")) ∧
      ∃ fault, ofLookup (hostAndFormat "::1" " json") = .error fault ∧
        (fault.name = "IMAS_URL" ∨ fault.name = "HOST" ∨
          fault.name = "LOG_FORMAT" ∧ fault.value = " json") := by
  have kept : ∀ value, hostAndFormat " ::1\t" "json" Variable.logFormat.name = some value →
      Text.isBlankText value = false →
        hostAndFormat "::1" "json" Variable.logFormat.name = some value := fun _ set _ => set
  exact ⟨(ofLookup_repadded (hostAndFormat_repadded spaced_host ⟨"json", .refl _, .refl _⟩)).1 kept,
    (ofLookup_repadded (hostAndFormat_repadded spaced_host spaced_json)).2 " json" rfl (by decide)
      (by decide)⟩

/-- One space in front of the form of log records refuses the settings. -/
theorem json_not_alike_spaced :
    (∀ var : Variable, RepaddedValue (hostAndFormat "::1" "json" var.name)
        (hostAndFormat "::1" " json" var.name)) ∧
      (ofLookup (hostAndFormat "::1" "json")).toOption.map (·.logFormat) = some .json ∧
      faultOf (ofLookup (hostAndFormat "::1" " json")) =
        some ⟨"LOG_FORMAT", " json", "unknown log format \" json\""⟩ ∧
      ¬ Alike (ofLookup (hostAndFormat "::1" "json")) (ofLookup (hostAndFormat "::1" " json")) := by
  have accepted : (ofLookup (hostAndFormat "::1" "json")).toOption.map (·.logFormat) =
      some .json := by decide +kernel
  have refused : faultOf (ofLookup (hostAndFormat "::1" " json")) =
      some ⟨"LOG_FORMAT", " json", "unknown log format \" json\""⟩ := by decide +kernel
  refine ⟨hostAndFormat_repadded ⟨"::1", .refl _, .refl _⟩ spaced_json, accepted, refused, ?_⟩
  rw [faultOf_eq_some_iff.mp refused]
  cases outcome : ofLookup (hostAndFormat "::1" "json") with
  | error fault =>
    rw [outcome] at accepted
    cases accepted
  | ok settings => exact id

end Settings

end BearerGate
