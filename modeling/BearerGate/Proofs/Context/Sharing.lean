import BearerGate.Context.Family
import BearerGate.Proofs.Bag.Backing
import Mathlib.Data.List.Induction

/-!
# What contexts share

Contexts have nothing in common but bags (`ContextFamily.run_isolated`). A step changes the context
that is given its result and no other, and the result has the values of its source but for the one
kind that the step is about. A request to the bag of a context is seen through just those contexts
that have the same bag.

Which contexts these are can be told from the steps. The bag of each context was attached at some
place among the steps and came to the context through all that were made since (`bagOrigins`). Two
contexts have the same bag if theirs were attached at one place or for one segment (`ShareBag`). On
the other hand the bags that stand alone are numbered in the order in which they are attached, so
bags that were attached at different places have different numbers (`BagOrigin.bag`).
-/

namespace BearerGate

/-! ## Values -/

namespace Context

variable {context : Context}

theorem get?_put_self (slot : Slot) (value : slot.Value) :
    (context.put slot value).get? slot = some value := by
  cases slot with
  | extra name => exact (context.extras.get?_insert name name value).trans (if_pos rfl)
  | _ => rfl

theorem get?_put_of_ne {slot other : Slot} (away : other ≠ slot) (value : slot.Value) :
    (context.put slot value).get? other = context.get? other := by
  cases slot with
  | extra name =>
    cases other with
    | extra key =>
      have apart : key ≠ name := fun same => away (congrArg Slot.extra same)
      exact (context.extras.get?_insert name key value).trans (if_neg apart)
    | _ => rfl
  | _ =>
    cases other with
    | _ => first | rfl | exact (away rfl).elim

theorem bag_put_of_ne {slot : Slot} (notBag : slot ≠ .bag) (value : slot.Value) :
    (context.put slot value).bag = context.bag :=
  get?_put_of_ne notBag.symm value

theorem get?_withBagOf_of_ne {slot : Slot} (away : slot ≠ .bag) (giver : Context) :
    (context.withBagOf giver).get? slot = context.get? slot := by
  unfold withBagOf
  cases giver.bag with
  | none => rfl
  | some bag => exact get?_put_of_ne away bag

theorem bag_withBagOf (giver : Context) :
    (context.withBagOf giver).bag = giver.bag.or context.bag := by
  unfold withBagOf
  cases giver.bag with
  | none => rfl
  | some bag => rfl

theorem ask_eq (bags : BagStore) (request : BagRequest) :
    context.ask bags request = context.bag.elim bags fun bag => (bags.handle bag request).2 := by
  cases request with
  | setUser user =>
    unfold ask setUser
    cases context.bag with
    | none => rfl
    | some bag => rfl
  | annotate name value =>
    unfold ask annotate
    cases context.bag with
    | none => rfl
    | some bag => rfl
  | addMetadata name value =>
    unfold ask addMetadata
    cases context.bag with
    | none => rfl
    | some bag => rfl
  | _ =>
    unfold ask
    cases context.bag with
    | none => rfl
    | some bag => rfl

end Context

namespace ContextFamily

variable {family : ContextFamily} {step : ContextStep} {steps : List ContextStep}

theorem contexts_given_self (target : Nat) (context : Context) :
    (family.given target context).contexts target = context :=
  if_pos rfl

theorem contexts_given_of_ne {target number : Nat} (away : number ≠ target) (context : Context) :
    (family.given target context).contexts number = family.contexts number :=
  if_neg away

/-- A step leaves all contexts alone but the one that it makes. -/
theorem contexts_step_of_ne {number : Nat} (aside : step.target? ≠ some number) :
    (family.step step).contexts number = family.contexts number := by
  cases step with
  | ask through request => rfl
  | _ => exact contexts_given_of_ne (fun same => aside (congrArg some same.symm)) _

theorem contexts_run_of_ne {number : Nat} (aside : ∀ step ∈ steps, step.target? ≠ some number) :
    (family.run steps).contexts number = family.contexts number := by
  induction steps generalizing family with
  | nil => rfl
  | cons step later ih =>
    rw [List.forall_mem_cons] at aside
    exact (ih aside.2).trans (contexts_step_of_ne aside.1)

/-- What a step makes of a context has the values of that context, but for one kind. -/
theorem get?_step_of_ne {target source : Nat} {slot : Slot} (made : step.target? = some target)
    (origin : step.source? = some source) (away : step.slot? ≠ some slot) :
    ((family.step step).contexts target).get? slot = (family.contexts source).get? slot := by
  have apart {changed : Slot} (about : step.slot? = some changed) : slot ≠ changed :=
    fun same => away (same ▸ about)
  cases step with
  | new | ofHeaders => cases origin
  | ask => cases made
  | clone =>
    cases made
    cases origin
    exact congrArg (Context.get? · slot) (contexts_given_self _ _)
  | derive | put | authenticate | attachBag =>
    cases made
    cases origin
    exact (congrArg (Context.get? · slot) (contexts_given_self _ _)).trans
      (Context.get?_put_of_ne (apart rfl) _)
  | passBag =>
    cases made
    cases origin
    exact (congrArg (Context.get? · slot) (contexts_given_self _ _)).trans
      (Context.get?_withBagOf_of_ne (apart rfl) _)

theorem get?_step_derive (target source : Nat) (slot : Slot) (value : slot.Value)
    (notBag : slot ≠ .bag) :
    ((family.step (.derive target source slot value notBag)).contexts target).get? slot =
      some value :=
  (congrArg (Context.get? · slot) (contexts_given_self _ _)).trans
    (Context.get?_put_self slot value)

end ContextFamily

/-! ## Where bags come from -/

/-- Where a bag was attached: the place among the steps, and the segment if there was one. -/
structure BagOrigin where
  place : Nat
  segment : Option Segment

/-- Whether two bags were attached by one step or for one segment. -/
def BagOrigin.Same (a b : BagOrigin) : Prop :=
  a.place = b.place ∨ a.segment ≠ none ∧ a.segment = b.segment

/-- Where the bags of all contexts come from after a step at the given place. -/
def ContextStep.traced (origins : Nat → Option BagOrigin) (place : Nat) (step : ContextStep)
    (number : Nat) : Option BagOrigin :=
  if step.target? = some number then
    match step with
    | .attachBag _ _ segment => some ⟨place, segment⟩
    | .passBag _ source giver => (origins giver).or (origins source)
    | .clone _ source | .derive _ source .. | .put source .. | .authenticate _ source _ =>
      origins source
    | .new _ | .ofHeaders .. | .ask .. => none
  else origins number

/-- Where the bag of each context comes from. -/
def bagOrigins (steps : List ContextStep) : Nat → Option BagOrigin :=
  steps.zipIdx.foldl (fun origins step => step.1.traced origins step.2) fun _ => none

/-- Whether two contexts have bags that were attached by one step or for one segment. -/
def ShareBag (steps : List ContextStep) (x y : Nat) : Prop :=
  ∃ a b, bagOrigins steps x = some a ∧ bagOrigins steps y = some b ∧ a.Same b

theorem bagOrigins_concat (steps : List ContextStep) (step : ContextStep) :
    bagOrigins (steps ++ [step]) = step.traced (bagOrigins steps) steps.length := by
  unfold bagOrigins
  rw [List.zipIdx_append, List.foldl_append, Nat.zero_add]
  rfl

/-- Whether a step attaches a bag that stands alone. -/
def ContextStep.standsAlone : ContextStep → Bool
  | .attachBag _ _ none => true
  | _ => false

/-- The bag that was attached at a place among the steps. -/
def BagOrigin.bag (steps : List ContextStep) (origin : BagOrigin) : BagRef :=
  match origin.segment with
  | some segment => .segment segment
  | none => .standalone ((steps.take origin.place).countP ContextStep.standsAlone)

/-- Whether a bag was attached at its place for its segment. -/
def BagOrigin.IsIn (steps : List ContextStep) (origin : BagOrigin) : Prop :=
  ∃ target source, steps[origin.place]? = some (.attachBag target source origin.segment)

/-- Fewer elements have a property in front of one that has it than in front of a later place. -/
theorem countP_take_lt {α : Type} {p : α → Bool} {xs : List α} {i j : Nat} {x : α}
    (found : xs[i]? = some x) (holds : p x = true) (before : i < j) :
    (xs.take i).countP p < (xs.take j).countP p := by
  have next : (xs.take (i + 1)).countP p = (xs.take i).countP p + 1 := by
    rw [List.take_add_one, found, List.countP_append, Option.toList_some, List.countP_singleton,
      if_pos holds]
  have within : (xs.take (i + 1)).Sublist (xs.take j) :=
    (List.take_prefix_take_left before).sublist
  have most := within.countP_le (p := p)
  omega

namespace BagOrigin

variable {steps : List ContextStep} {a b origin : BagOrigin}

theorem IsIn.lt (known : origin.IsIn steps) : origin.place < steps.length := by
  obtain ⟨target, source, found⟩ := known
  exact (List.getElem?_eq_some_iff.mp found).1

theorem IsIn.concat (known : origin.IsIn steps) (step : ContextStep) :
    origin.IsIn (steps ++ [step]) := by
  obtain ⟨target, source, found⟩ := id known
  exact ⟨target, source, (List.getElem?_append_left known.lt).trans found⟩

theorem IsIn.bag_concat (known : origin.IsIn steps) (step : ContextStep) :
    origin.bag (steps ++ [step]) = origin.bag steps := by
  unfold bag
  rw [List.take_append_of_le_length (Nat.le_of_lt known.lt)]

/-- Two attached bags are the same if they were attached by one step or for one segment, and in no
other case. -/
theorem IsIn.bag_eq_iff (known : a.IsIn steps) (known' : b.IsIn steps) :
    a.bag steps = b.bag steps ↔ a.Same b := by
  obtain ⟨place, segment⟩ := a
  obtain ⟨place', segment'⟩ := b
  obtain ⟨target, source, found⟩ := known
  obtain ⟨target', source', found'⟩ := known'
  dsimp only at found found'
  constructor
  · intro same
    cases segment with
    | some segment =>
      cases segment' with
      | some segment' =>
        cases same
        exact .inr ⟨nofun, rfl⟩
      | none => cases same
    | none =>
      cases segment' with
      | some segment' => cases same
      | none =>
        left
        -- Both stand alone. Of two places the later one has more such bags in front of it.
        have counts : (steps.take place).countP ContextStep.standsAlone =
            (steps.take place').countP ContextStep.standsAlone := BagRef.standalone.inj same
        rcases Nat.lt_trichotomy place place' with before | same | behind
        · have fewer := countP_take_lt (p := ContextStep.standsAlone) found rfl before
          omega
        · exact same
        · have fewer := countP_take_lt (p := ContextStep.standsAlone) found' rfl behind
          omega
  · rintro (same | ⟨some, same⟩)
    · cases same
      cases Option.some.inj (found.symm.trans found')
      rfl
    · cases same
      cases segment with
      | some segment => rfl
      | none => exact (some rfl).elim

end BagOrigin

/-! ## Bags in a family -/

theorem BagStore.length_standalone_handle {store : BagStore} (bag : BagRef) (request : BagRequest) :
    (store.handle bag request).2.standalone.length = store.standalone.length := by
  rw [handle_snd]
  cases request.write? with
  | none => rfl
  | some write =>
    cases bag with
    | standalone index => exact List.length_modify ..
    | segment segment => rfl

namespace ContextFamily

/-- A family in which the bags are those that the steps have attached. -/
structure Traced (family : ContextFamily) (steps : List ContextStep) : Prop where
  bag : ∀ x, (family.contexts x).bag = (bagOrigins steps x).map (·.bag steps)
  count : family.bags.standalone.length = steps.countP ContextStep.standsAlone
  known : ∀ x origin, bagOrigins steps x = some origin → origin.IsIn steps

variable {family : ContextFamily} {step : ContextStep} {steps : List ContextStep}

theorem opened_traced (newId : Nat → String) : (opened newId).Traced [] :=
  ⟨fun _ => rfl, rfl, nofun⟩

/-- What comes to a context from others has come the same way before. -/
theorem Traced.bag_concat (traced : family.Traced steps) (step : ContextStep) (x : Nat) :
    (bagOrigins steps x).map (·.bag (steps ++ [step])) = (family.contexts x).bag := by
  rw [traced.bag x]
  cases found : bagOrigins steps x with
  | none => rfl
  | some origin => exact congrArg some ((traced.known x origin found).bag_concat step)

theorem length_standalone_step (family : ContextFamily) (step : ContextStep) :
    (family.step step).bags.standalone.length =
      family.bags.standalone.length + [step].countP ContextStep.standsAlone := by
  cases step with
  | ask through request =>
    change ((family.contexts through).ask family.bags request).standalone.length = _
    rw [Context.ask_eq]
    cases (family.contexts through).bag with
    | none => rfl
    | some bag => exact BagStore.length_standalone_handle bag request
  | attachBag target source segment =>
    cases segment with
    | none => exact List.length_append
    | some segment => rfl
  | _ => rfl

theorem Traced.bag_step (traced : family.Traced steps) (step : ContextStep) (x : Nat) :
    ((family.step step).contexts x).bag =
      (bagOrigins (steps ++ [step]) x).map (·.bag (steps ++ [step])) := by
  rw [bagOrigins_concat]
  unfold ContextStep.traced
  by_cases made : step.target? = some x
  · rw [if_pos made]
    have same := traced.bag_concat step
    cases step with
    | new | ofHeaders =>
      cases made
      exact congrArg Context.bag (contexts_given_self _ _)
    | clone target source =>
      cases made
      exact (congrArg Context.bag (contexts_given_self _ _)).trans (same source).symm
    | derive target source slot value notBag =>
      cases made
      refine (congrArg Context.bag (contexts_given_self _ _)).trans ?_
      rw [Context.bag_put_of_ne notBag]
      exact (same source).symm
    | put target slot value notBag =>
      cases made
      refine (congrArg Context.bag (contexts_given_self _ _)).trans ?_
      rw [Context.bag_put_of_ne notBag]
      exact (same _).symm
    | authenticate target source result =>
      cases made
      exact (congrArg Context.bag (contexts_given_self _ _)).trans (same source).symm
    | attachBag target source segment =>
      cases made
      refine (congrArg Context.bag (contexts_given_self _ _)).trans ?_
      cases segment with
      | some segment => rfl
      | none =>
        change some (BagRef.standalone family.bags.standalone.length) = _
        rw [traced.count, Option.map_some, BagOrigin.bag, List.take_left]
    | passBag target source giver =>
      cases made
      refine (congrArg Context.bag (contexts_given_self _ _)).trans ?_
      dsimp only
      rw [Context.bag_withBagOf, Option.map_or, same giver, same source]
    | ask through request => cases made
  · rw [if_neg made, traced.bag_concat step x, contexts_step_of_ne made]

theorem Traced.known_step (traced : family.Traced steps) {x : Nat} {origin : BagOrigin}
    (found : bagOrigins (steps ++ [step]) x = some origin) : origin.IsIn (steps ++ [step]) := by
  have before {y : Nat} (found : bagOrigins steps y = some origin) :
      origin.IsIn (steps ++ [step]) := (traced.known y origin found).concat step
  rw [bagOrigins_concat] at found
  unfold ContextStep.traced at found
  by_cases made : step.target? = some x
  · rw [if_pos made] at found
    cases step with
    | new | ofHeaders | ask => cases found
    | clone | derive | put | authenticate => exact before found
    | attachBag target source segment =>
      cases found
      exact ⟨target, source, List.getElem?_concat_length⟩
    | passBag target source giver =>
      rcases Option.or_eq_some_iff.mp found with given | ⟨-, kept⟩
      · exact before given
      · exact before kept
  · rw [if_neg made] at found
    exact before found

theorem Traced.after (traced : family.Traced steps) (step : ContextStep) :
    (family.step step).Traced (steps ++ [step]) where
  bag := traced.bag_step step
  count := by
    rw [length_standalone_step, traced.count, List.countP_append]
  known _ _ found := traced.known_step found

theorem run_concat (family : ContextFamily) (steps : List ContextStep) (step : ContextStep) :
    family.run (steps ++ [step]) = (family.run steps).step step :=
  List.foldl_append

theorem run_traced (newId : Nat → String) (steps : List ContextStep) :
    ((opened newId).run steps).Traced steps := by
  induction steps using List.reverseRecOn with
  | nil => exact opened_traced newId
  | append_singleton steps step ih =>
    rw [run_concat]
    exact ih.after step

/-! ## What a request changes -/

theorem Traced.has (traced : family.Traced steps) {x : Nat} {bag : BagRef}
    (held : (family.contexts x).bag = some bag) : family.bags.Has bag := by
  rw [traced.bag x] at held
  obtain ⟨origin, found, rfl⟩ := Option.map_eq_some_iff.mp held
  have known := traced.known x origin found
  obtain ⟨place, segment⟩ := origin
  cases segment with
  | some segment => trivial
  | none =>
    obtain ⟨target, source, attached⟩ := id known
    have fewer := countP_take_lt (p := ContextStep.standsAlone) attached rfl known.lt
    rw [List.take_length, ← traced.count] at fewer
    exact fewer

theorem Traced.bag_eq_none_iff (traced : family.Traced steps) (x : Nat) :
    (family.contexts x).bag = none ↔ bagOrigins steps x = none := by
  rw [traced.bag x, Option.map_eq_none_iff]

theorem Traced.shareBag_iff (traced : family.Traced steps) (x y : Nat) :
    ShareBag steps x y ↔
      ∃ bag, (family.contexts x).bag = some bag ∧ (family.contexts y).bag = some bag := by
  simp only [traced.bag, Option.map_eq_some_iff]
  constructor
  · rintro ⟨a, b, found, found', same⟩
    have equal := ((traced.known x a found).bag_eq_iff (traced.known y b found')).mpr same
    exact ⟨a.bag steps, ⟨a, found, rfl⟩, b, found', equal.symm⟩
  · rintro ⟨bag, ⟨a, found, rfl⟩, b, found', equal⟩
    exact ⟨a, b, found, found',
      ((traced.known x a found).bag_eq_iff (traced.known y b found')).mp equal.symm⟩

theorem step_ask_of_none {y : Nat} (absent : (family.contexts y).bag = none)
    (request : BagRequest) : family.step (.ask y request) = family := by
  rw [ContextFamily.step, Context.ask_eq, absent]
  rfl

theorem bags_step_ask {y : Nat} {bag : BagRef} (held : (family.contexts y).bag = some bag)
    (request : BagRequest) :
    (family.step (.ask y request)).bags = (family.bags.handle bag request).2 := by
  change (family.contexts y).ask family.bags request = _
  rw [Context.ask_eq, held]
  rfl

theorem shown_step_ask_self {x y : Nat} {bag : BagRef} (has : family.bags.Has bag)
    (held : (family.contexts x).bag = some bag) (held' : (family.contexts y).bag = some bag)
    (request : BagRequest) :
    (family.step (.ask y request)).shown x = (family.shown x).map (·.afterRequest request) := by
  change (family.contexts x).bag.map (family.step (.ask y request)).bags.contents = _
  rw [shown, held, bags_step_ask held']
  exact congrArg some (BagStore.contents_handle_self has request)

theorem shown_step_ask_of_ne {x y : Nat} {bag : BagRef}
    (away : (family.contexts x).bag ≠ some bag) (held : (family.contexts y).bag = some bag)
    (request : BagRequest) : (family.step (.ask y request)).shown x = family.shown x := by
  change (family.contexts x).bag.map (family.step (.ask y request)).bags.contents = _
  rw [shown, bags_step_ask held]
  cases other : (family.contexts x).bag with
  | none => rfl
  | some mine =>
    have apart : mine ≠ bag := fun same => away (other.trans (congrArg some same))
    exact congrArg some (BagStore.contents_handle_of_ne apart request)

/-- What a request through the context `y` changes for what is seen through `x`. -/
structure Seen (family : ContextFamily) (steps : List ContextStep) (y : Nat) (request : BagRequest)
    (x : Nat) : Prop where
  /-- Contexts share a bag if they have the same one. -/
  shares : ShareBag steps x y ↔
    ∃ bag, (family.contexts x).bag = some bag ∧ (family.contexts y).bag = some bag
  /-- One bag shows the same through both, and shows the request. -/
  here : ShareBag steps x y → family.shown x = family.shown y ∧
    (family.step (.ask y request)).shown x = (family.shown x).map (·.afterRequest request)
  away : ¬ ShareBag steps x y → (family.step (.ask y request)).shown x = family.shown x
  /-- If the request changes anything, then just for those who share the bag. -/
  changed : (family.step (.ask y request)).shown x ≠ family.shown x ↔
    ShareBag steps x y ∧ (family.step (.ask y request)).shown y ≠ family.shown y

theorem Traced.seen (traced : family.Traced steps) (y : Nat) (request : BagRequest) (x : Nat) :
    family.Seen steps y request x := by
  have shares := traced.shareBag_iff x y
  have here (shared : ShareBag steps x y) : family.shown x = family.shown y ∧
      (family.step (.ask y request)).shown x = (family.shown x).map (·.afterRequest request) := by
    obtain ⟨bag, held, held'⟩ := shares.mp shared
    have same : family.shown x = family.shown y := by rw [shown, shown, held, held']
    exact ⟨same, shown_step_ask_self (traced.has held') held held' request⟩
  have away (apart : ¬ ShareBag steps x y) :
      (family.step (.ask y request)).shown x = family.shown x := by
    cases held : (family.contexts y).bag with
    | none => rw [step_ask_of_none held]
    | some bag =>
      exact shown_step_ask_of_ne (fun same => apart (shares.mpr ⟨bag, same, held⟩)) held request
  refine ⟨shares, here, away, ?_⟩
  by_cases shared : ShareBag steps x y
  · -- Both contexts show one bag before and after, so they show a change together.
    obtain ⟨same, after⟩ := here shared
    obtain ⟨bag, held, held'⟩ := shares.mp shared
    have after' := shown_step_ask_self (traced.has held') held' held' request
    rw [after, after', same]
    exact (and_iff_right shared).symm
  · exact iff_of_false (fun changed => changed (away shared)) fun both => shared both.1

/-- Contexts are isolated from one another but for the bags that they share. Whatever steps were
taken, later ones leave a context alone unless they give its number a result; a result has the
values of its source but for one kind, and a value that it was derived with; and a request to the
bag of a context is seen through those contexts that share the bag, and nowhere if there is none. -/
theorem run_isolated (newId : Nat → String) (steps : List ContextStep) :
    (∀ later x, (∀ step ∈ later, step.target? ≠ some x) →
        (((opened newId).run steps).run later).contexts x =
          ((opened newId).run steps).contexts x) ∧
      (∀ step target source slot, step.target? = some target → step.source? = some source →
        step.slot? ≠ some slot →
          ((((opened newId).run steps).step step).contexts target).get? slot =
            (((opened newId).run steps).contexts source).get? slot) ∧
      (∀ target source slot value notBag,
        ((((opened newId).run steps).step (.derive target source slot value notBag)).contexts
          target).get? slot = some value) ∧
      ∀ y request,
        (bagOrigins steps y = none → ((opened newId).run steps).step (.ask y request) =
          (opened newId).run steps) ∧
        ∀ x, ((opened newId).run steps).Seen steps y request x := by
  have traced := run_traced newId steps
  refine ⟨?_, ?_, ?_, ?_⟩
  · intro later x aside
    exact contexts_run_of_ne aside
  · intro step target source slot made origin away
    exact get?_step_of_ne made origin away
  · intro target source slot value notBag
    exact get?_step_derive target source slot value notBag
  · intro y request
    refine ⟨fun absent => ?_, traced.seen y request⟩
    exact step_ask_of_none ((traced.bag_eq_none_iff y).mpr absent) request

end ContextFamily

end BearerGate
