import BearerGate.Hook.ErrorLog
import BearerGate.Proofs.Context.Sharing
import Mathlib.Data.List.Basic

/-!
# What records say of a bag

Whatever steps were taken with contexts, what a bag adds to a record is what was written to it
through any context that had it (`ContextFamily.run_reported`): the user, each annotation as the
value that was last given for it, and for warnings and errors the metadata. Annotations are kept as
scalars, which have integers with a sign, integers without one and doubles, and a scalar is the
value that it was made of (`Scalar.toJson_of_ofJson?`).

Values have integers of 64 bits and finite doubles, and no numbers besides (`Json.InRange`).
-/

namespace BearerGate

/-! ## Scalars are values -/

/-- Whether a number is an integer of 64 bits, with a sign or without, or a finite double. -/
def Json.Number.InRange : Json.Number → Prop
  | .integer n => -0x8000000000000000 ≤ n ∧ n ≤ 0xFFFFFFFFFFFFFFFF
  | .double x => x.isFinite = true

/-- Whether a value is within the range of numbers, if it is a number. -/
def Json.InRange : Json → Prop
  | .number n => n.InRange
  | .null | .bool _ | .string _ | .array _ | .object _ => True

namespace Scalar

theorem toJson_ofInt {n : Int} (low : -0x8000000000000000 ≤ n) (high : n ≤ 0xFFFFFFFFFFFFFFFF) :
    (ofInt n).toJson = .int n := by
  unfold ofInt
  by_cases signed : n < 0x8000000000000000
  · rw [if_pos signed]
    exact congrArg Json.int (Int64.toInt_ofInt_of_le low signed)
  · rw [if_neg signed]
    have small : n.toNat < UInt64.size := by
      change n.toNat < 0x10000000000000000
      omega
    have whole : (n.toNat : Int) = n := Int.toNat_of_nonneg (by omega)
    change Json.int (UInt64.ofNat n.toNat).toNat = .int n
    rw [UInt64.toNat_ofNat_of_lt' small, whole]

/-- A scalar is the value that it was made of. -/
theorem toJson_of_ofJson? {value : Json} {scalar : Scalar} (range : value.InRange)
    (made : ofJson? value = some scalar) : scalar.toJson = value := by
  cases value with
  | bool b =>
    cases made
    rfl
  | string s =>
    cases made
    rfl
  | number n =>
    cases n with
    | integer n =>
      cases made
      exact toJson_ofInt range.1 range.2
    | double x =>
      cases made
      exact if_pos range
  | null | array | object => cases made

end Scalar

/-- The scalar that a request writes under a name, as the value that it is given as. -/
def BagRequest.scalarValue? (name : String) : BagRequest → Option Json
  | .annotate written value => if written = name ∧ value.isScalar then some value else none
  | _ => none

theorem BagRequest.map_toJson_annotated? {request : BagRequest}
    (range : ∀ name value, request = .annotate name value → value.InRange) (name : String) :
    (request.annotated? name).map Scalar.toJson = request.scalarValue? name := by
  cases request with
  | annotate written value =>
    unfold annotated? scalarValue?
    dsimp only
    by_cases own : written = name
    · rw [if_pos own]
      cases made : Scalar.ofJson? value with
      | none =>
        rw [if_neg fun both => ?_]
        · rfl
        · rw [Scalar.ofJson?_eq_none_iff.mp made] at both
          cases both.2
      | some scalar =>
        have plain : value.isScalar = true := by
          rw [← Bool.not_eq_false, ← Scalar.ofJson?_eq_none_iff, made]
          exact nofun
        rw [if_pos ⟨own, plain⟩, Option.map_some, Scalar.toJson_of_ofJson? (range _ _ rfl) made]
    · rw [if_neg own, if_neg fun both => own both.1]
      rfl
  | _ => rfl

theorem BagContents.ShowsLast.get?_map_toJson {contents : BagContents} {requests : List BagRequest}
    (shows : contents.ShowsLast requests)
    (range : ∀ name value, .annotate name value ∈ requests → value.InRange) (name : String) :
    (contents.annotations.map Scalar.toJson).get? name =
      (requests.filterMap (BagRequest.scalarValue? name)).getLast? := by
  have values : requests.filterMap (fun request => (request.annotated? name).map Scalar.toJson) =
      requests.filterMap (BagRequest.scalarValue? name) := by
    refine List.filterMap_congr fun request asked => ?_
    refine BagRequest.map_toJson_annotated? (fun written value same => ?_) name
    exact range written value (same ▸ asked)
  rw [Dict.get?_map, shows.annotations, ← List.getLast?_map, List.map_filterMap, values]

/-! ## What was asked of a bag -/

namespace ContextFamily

variable {family : ContextFamily} {steps : List ContextStep}

/-- The request that a step makes to a bag, if it is to this bag that it makes one. -/
def asked? (family : ContextFamily) (bag : BagRef) : ContextStep → Option BagRequest
  | .ask through request =>
    if (family.contexts through).bag = some bag then some request else none
  | _ => none

/-- The requests that steps make to a bag, through whatever contexts have it at the time. -/
def requestsTo (family : ContextFamily) (bag : BagRef) : List ContextStep → List BagRequest
  | [] => []
  | step :: later => (family.asked? bag step).toList ++ (family.step step).requestsTo bag later

theorem requestsTo_append (family : ContextFamily) (bag : BagRef)
    (steps later : List ContextStep) :
    family.requestsTo bag (steps ++ later) =
      family.requestsTo bag steps ++ (family.run steps).requestsTo bag later := by
  induction steps generalizing family with
  | nil => rfl
  | cons step steps ih =>
    rw [List.cons_append, requestsTo, requestsTo, ih, List.append_assoc]
    rfl

theorem mem_steps_of_mem_requestsTo {bag : BagRef} {request : BagRequest}
    (asked : request ∈ family.requestsTo bag steps) : ∃ y, .ask y request ∈ steps := by
  induction steps generalizing family with
  | nil => cases asked
  | cons step steps ih =>
    rcases List.mem_append.mp asked with now | later
    · cases step with
      | ask through made =>
        obtain ⟨-, same⟩ := Option.ite_none_right_eq_some.mp (Option.mem_toList.mp now)
        cases same
        exact ⟨through, List.mem_cons_self⟩
      | _ => cases now
    · obtain ⟨y, member⟩ := ih later
      exact ⟨y, List.mem_cons_of_mem step member⟩

theorem contents_step (has : ∀ y bag, (family.contexts y).bag = some bag → family.bags.Has bag)
    (bag : BagRef) (step : ContextStep) :
    (family.step step).bags.contents bag =
      (family.asked? bag step).elim (family.bags.contents bag)
        (family.bags.contents bag).afterRequest := by
  cases step with
  | ask through request =>
    unfold asked?
    dsimp only
    by_cases own : (family.contexts through).bag = some bag
    · rw [if_pos own, bags_step_ask own]
      exact BagStore.contents_handle_self (has through bag own) request
    · rw [if_neg own]
      cases held : (family.contexts through).bag with
      | none =>
        rw [step_ask_of_none held]
        rfl
      | some other =>
        have apart : bag ≠ other := fun same => own (held.trans (congrArg some same.symm))
        rw [bags_step_ask held]
        exact BagStore.contents_handle_of_ne apart request
  | attachBag target source segment => exact BagStore.contents_attach segment bag
  | _ => rfl

/-- A bag shows the last of the requests that were made to it through contexts. -/
theorem run_showsLast (newId : Nat → String) (steps : List ContextStep) (bag : BagRef) :
    (((opened newId).run steps).bags.contents bag).ShowsLast
      ((opened newId).requestsTo bag steps) := by
  induction steps using List.reverseRecOn with
  | nil =>
    cases bag with
    | _ => exact BagContents.showsLast_empty
  | append_singleton steps step ih =>
    rw [run_concat, requestsTo_append, contents_step fun _ _ => (run_traced newId steps).has]
    change BagContents.ShowsLast _ (_ ++ ((asked? _ bag step).toList ++ []))
    rw [List.append_nil]
    cases ((opened newId).run steps).asked? bag step with
    | none =>
      rw [Option.toList_none, List.append_nil]
      exact ih
    | some request => exact ih.afterRequest request

end ContextFamily

/-! ## Records -/

/-- What a record says of a bag with an id, after the given requests to it. -/
structure LogFields.Reports (fields : LogFields) (level : LogLevel) (id : String)
    (requests : List BagRequest) : Prop where
  traceId : fields.traceId = id
  user : fields.user = ((requests.filterMap BagRequest.user?).getLast?).getD ""
  annotations : ∀ name, fields.annotations.get? name =
    (requests.filterMap (BagRequest.scalarValue? name)).getLast?
  grave : fields.metadata.isSome ↔ level = .warn ∨ level = .error
  metadata : ∀ metadata, fields.metadata = some metadata → ∀ name, metadata.get? name =
    (requests.filterMap (BagRequest.metadata? name)).getLast?

/-- Whether an error record shows just what a bag adds to it, or else nothing of a bag. -/
def ErrorRecord.Shows (record : ErrorRecord) : Option LogFields → Prop
  | some fields => record.traceId = fields.traceId ∧ record.user = fields.user ∧
    record.annotations = (Json.ofDict fields.annotations).text ∧
      ∃ metadata, fields.metadata = some metadata ∧ record.metadata = (Json.ofDict metadata).text
  | none => record.traceId = "" ∧ record.user = "" ∧ record.annotations = "" ∧ record.metadata = ""

theorem LogLevel.showsMetadata_iff (level : LogLevel) :
    level.showsMetadata = true ↔ level = .warn ∨ level = .error := by
  cases level with
  | _ => decide

theorem Context.reports_logFields? {context : Context} {bags : BagStore} {bag : BagRef}
    {requests : List BagRequest} (held : context.bag = some bag)
    (shows : (bags.contents bag).ShowsLast requests)
    (range : ∀ name value, .annotate name value ∈ requests → value.InRange) (level : LogLevel) :
    ∃ fields, context.logFields? level bags = some fields ∧
      fields.user = (bags.contents bag).user ∧ fields.Reports level (bags.id bag) requests := by
  refine ⟨_, (congrArg (Option.map _) held).trans (Option.map_some ..), rfl, ?_⟩
  constructor
  · rfl
  · exact shows.user
  · exact shows.get?_map_toJson range
  · rw [← level.showsMetadata_iff]
    dsimp only
    cases level.showsMetadata with
    | true => exact iff_of_true rfl rfl
    | false => exact iff_of_false nofun nofun
  · intro metadata present name
    obtain ⟨-, same⟩ := Option.ite_none_right_eq_some.mp present
    cases same
    exact shows.metadata name

theorem Hook.errorLog_failed {τ : Type} (context : Context) (error : RpcError) (world : World τ) :
    ∃ record : ErrorRecord, errorLog.failed context error world =
        { world with log := world.log ++ [record] } ∧
      record.Shows (context.logFields? .error world.bags) := by
  refine ⟨_, rfl, ?_⟩
  unfold Context.logFields?
  cases context.bag with
  | none => exact ⟨rfl, rfl, rfl, rfl⟩
  | some bag => exact ⟨rfl, rfl, rfl, _, rfl, rfl⟩

namespace ContextFamily

/-- What records say of the bag of a context, where the requests to each bag are given. -/
structure Reported (family : ContextFamily) (requests : BagRef → List BagRequest) (x : Nat) :
    Prop where
  absent : ∀ level, (family.contexts x).logFields? level family.bags = none ↔
    (family.contexts x).bag = none
  present : ∀ bag, (family.contexts x).bag = some bag → ∀ level, ∃ fields,
    (family.contexts x).logFields? level family.bags = some fields ∧
      fields.user = (family.bags.contents bag).user ∧
        fields.Reports level (family.bags.id bag) (requests bag)
  recorded : ∀ {τ : Type} (error : RpcError) (world : World τ), world.bags = family.bags →
    ∃ record : ErrorRecord, Hook.errorLog.failed (family.contexts x) error world =
        { world with log := world.log ++ [record] } ∧
      record.Shows ((family.contexts x).logFields? .error family.bags)

/-- Records say what was written to the bag of a context, whatever steps were taken before: under
each name the last scalar as it was given, and for warnings and errors the last metadata. An error
record has the texts of both, which are empty if there is no bag. -/
theorem run_reported (newId : Nat → String) (steps : List ContextStep)
    (range : ∀ y name value, .ask y (.annotate name value) ∈ steps → value.InRange) (x : Nat) :
    ((opened newId).run steps).Reported ((opened newId).requestsTo · steps) x := by
  constructor
  · intro level
    exact Option.map_eq_none_iff
  · intro bag held level
    refine Context.reports_logFields? held (run_showsLast newId steps bag) ?_ level
    intro name value asked
    obtain ⟨y, member⟩ := mem_steps_of_mem_requestsTo asked
    exact range y name value member
  · intro τ error world same
    rw [← same]
    exact Hook.errorLog_failed (((opened newId).run steps).contexts x) error world

/-- Two contexts with one bag, to which the greatest and the least integer are written. -/
def extremes : List ContextStep :=
  [.attachBag 0 0 none, .clone 1 0, .ask 0 (.annotate "most" (.int 0xFFFFFFFFFFFFFFFF)),
    .ask 1 (.annotate "least" (.int (-0x8000000000000000))), .ask 1 (.annotate "most" (.array [])),
    .ask 0 (.addMetadata "payload" .null), .ask 0 (.setUser "agent")]

theorem run_reported_extremes :
    (∀ y name value, .ask y (.annotate name value) ∈ extremes → value.InRange) ∧
      ∃ fields, (((opened fun _ => "id").run extremes).contexts 1).logFields? .warn
          ((opened fun _ => "id").run extremes).bags = some fields ∧
        fields.traceId = "id" ∧ fields.user = "agent" ∧
          fields.annotations.get? "most" = some (.int 0xFFFFFFFFFFFFFFFF) ∧
            fields.annotations.get? "least" = some (.int (-0x8000000000000000)) := by
  have range : ∀ y name value, .ask y (.annotate name value) ∈ extremes → value.InRange := by
    intro y name value member
    simp only [extremes, List.mem_cons, reduceCtorEq, ContextStep.ask.injEq,
      BagRequest.annotate.injEq, List.not_mem_nil, or_false, false_or, and_false] at member
    rcases member with ⟨-, -, rfl⟩ | ⟨-, -, rfl⟩ | ⟨-, -, rfl⟩
    · exact ⟨by decide, by decide⟩
    · exact ⟨by decide, by decide⟩
    · trivial
  obtain ⟨fields, shown, -, reports⟩ :=
    (run_reported (fun _ => "id") extremes range 1).present (.standalone 0) rfl .warn
  refine ⟨range, fields, shown, reports.traceId, reports.user, ?_, ?_⟩
  · exact reports.annotations "most"
  · exact reports.annotations "least"

end ContextFamily

end BearerGate
