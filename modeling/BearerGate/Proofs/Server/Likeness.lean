import BearerGate.Proofs.Server.Lifecycle

/-!
# Two runs of a call

A request is served twice, with hooks, handlers and worlds that need not be the same. A `Likeness`
says when two worlds are alike. Hooks and handlers that cannot tell like worlds apart, and leave
like worlds behind (`Matches`), make for two calls with the same response, again in like worlds
(`CallLayer.Matches.serve`).

With this, observation is shown to be without effect: an observed hook matches the hook itself.
-/

namespace BearerGate

variable {σ τ : Type}

/-- When the worlds of two runs are alike. Their bags are the same, and since a call itself writes
to the bags, what is written there does not count. -/
structure Likeness (σ τ : Type) where
  Holds : World σ → World τ → Prop
  bags_eq : ∀ {world : World σ} {other : World τ}, Holds world other → other.bags = world.bags
  withBags : ∀ {world : World σ} {other : World τ}, Holds world other →
    ∀ bags, Holds { world with bags } { other with bags }

/-! ## What matches -/

/-- Two runs of a stage with the same outcome. -/
structure Progress.Matches (likeness : Likeness σ τ) (progress : Progress σ)
    (other : Progress τ) : Prop where
  context : other.context = progress.context
  world : likeness.Holds progress.world other.world
  failure : other.failure = progress.failure

/-- Two hooks that do the same in like worlds. -/
structure Hook.Matches (likeness : Likeness σ τ) (hook : Hook σ) (other : Hook τ) : Prop where
  received : ∀ context {world world'}, likeness.Holds world world' →
    (hook.received context world).Matches likeness (other.received context world')
  routed : ∀ context {world world'}, likeness.Holds world world' →
    (hook.routed context world).Matches likeness (other.routed context world')
  sent : ∀ context {world world'}, likeness.Holds world world' →
    likeness.Holds (hook.sent context world) (other.sent context world')
  failed : ∀ context error {world world'}, likeness.Holds world world' →
    likeness.Holds (hook.failed context error world) (other.failed context error world')

/-- Two handlers that answer the same in like worlds. -/
def Handler.Matches (likeness : Likeness σ τ) (handler : Handler σ) (other : Handler τ) : Prop :=
  ∀ request {world world'}, likeness.Holds world world' →
    (other request world').1 = (handler request world).1 ∧
      likeness.Holds (handler request world).2 (other request world').2

/-- Two layers of hooks that do the same in like worlds. -/
structure CallLayer.Matches (likeness : Likeness σ τ) (layer : CallLayer σ)
    (other : CallLayer τ) : Prop where
  hook : layer.hook.Matches likeness other.hook
  segmentOf : other.segmentOf = layer.segmentOf
  lead : other.lead = layer.lead

variable {likeness : Likeness σ τ}

/-! ## Pipelines -/

theorem Progress.Matches.andThen {progress : Progress σ} {other : Progress τ}
    {next : Context → World σ → Progress σ} {next' : Context → World τ → Progress τ}
    (here : progress.Matches likeness other)
    (onward : ∀ context {world world'}, likeness.Holds world world' →
      (next context world).Matches likeness (next' context world')) :
    (progress.andThen next).Matches likeness (other.andThen next') := by
  unfold Progress.andThen
  rw [here.failure, here.context]
  cases progress.failure with
  | none => exact onward progress.context here.world
  | some error => exact here

namespace Hook

variable {α : Type} {hookOf : α → Hook σ} {otherOf : α → Hook τ}

theorem inTurn_matches {stage : Hook σ → Context → World σ → Progress σ}
    {stage' : Hook τ → Context → World τ → Progress τ}
    (each : ∀ name context {world world'}, likeness.Holds world world' →
      (stage (hookOf name) context world).Matches likeness
        (stage' (otherOf name) context world'))
    (names : List α) (context : Context) {world : World σ} {world' : World τ}
    (alike : likeness.Holds world world') :
    (inTurn stage (names.map hookOf) context world).Matches likeness
      (inTurn stage' (names.map otherOf) context world') := by
  induction names generalizing context world world' with
  | nil => exact ⟨rfl, alike, rfl⟩
  | cons name names ih => exact (each name context alike).andThen fun context _ _ => ih context

theorem foldl_matches {act : Hook σ → World σ → World σ} {act' : Hook τ → World τ → World τ}
    (each : ∀ name {world world'}, likeness.Holds world world' →
      likeness.Holds (act (hookOf name) world) (act' (otherOf name) world'))
    (names : List α) {world : World σ} {world' : World τ} (alike : likeness.Holds world world') :
    likeness.Holds ((names.map hookOf).foldl (fun world hook => act hook world) world)
      ((names.map otherOf).foldl (fun world hook => act' hook world) world') := by
  induction names generalizing world world' with
  | nil => exact alike
  | cons name names ih => exact ih (each name alike)

/-- Pipelines match if hooks of the same name do. -/
theorem pipeline_matches (pairs : ∀ name, (hookOf name).Matches likeness (otherOf name))
    (names : List α) :
    (pipeline (names.map hookOf)).Matches likeness (pipeline (names.map otherOf)) where
  received context _ _ := inTurn_matches (fun name => (pairs name).received) names context
  routed context _ _ := inTurn_matches (fun name => (pairs name).routed) names context
  sent context _ _ := foldl_matches (fun name => (pairs name).sent context) names
  failed context error _ _ := foldl_matches (fun name => (pairs name).failed context error) names

end Hook

/-! ## Calls -/

namespace CallLayer.Matches

variable {layer : CallLayer σ} {other : CallLayer τ} {world : World σ} {world' : World τ}

theorem receive (pair : layer.Matches likeness other) (request : Request)
    (alike : likeness.Holds world world') :
    (layer.receive request world).Matches likeness (other.receive request world') := by
  unfold CallLayer.receive
  rw [pair.segmentOf, likeness.bags_eq alike]
  exact pair.hook.received _ (likeness.withBags alike _)

theorem route (pair : layer.Matches likeness other) (pattern : String) (context : Context)
    (alike : likeness.Holds world world') :
    (layer.route pattern context world).Matches likeness
      (other.route pattern context world') := by
  unfold CallLayer.route
  rw [pair.lead, likeness.bags_eq alike]
  cases Route.parse? pattern layer.lead with
  | none => exact pair.hook.routed context alike
  | some route => exact pair.hook.routed _ (likeness.withBags alike _)

theorem close (pair : layer.Matches likeness other) (context : Context) (response : Response)
    (alike : likeness.Holds world world') :
    likeness.Holds (layer.close context response world) (other.close context response world') :=
  pair.hook.sent _ alike

theorem report (pair : layer.Matches likeness other) (context : Context) (response : Response)
    (alike : likeness.Holds world world') :
    likeness.Holds (layer.report context response world)
      (other.report context response world') := by
  unfold CallLayer.report
  cases response.failure with
  | none => exact alike
  | some error => exact pair.hook.failed context error alike

theorem refuse (pair : layer.Matches likeness other) (context : Context) (error : RpcError)
    (alike : likeness.Holds world world') :
    likeness.Holds (layer.refuse context error world).2 (other.refuse context error world').2 :=
  pair.close _ _ (pair.report _ _ alike)

/-- Layers that match and handlers that match give calls with the same response. -/
theorem serve (pair : layer.Matches likeness other) {handler : Handler σ} {handler' : Handler τ}
    (answers : handler.Matches likeness handler') :
    (layer.serve handler).Matches likeness (other.serve handler') := by
  intro request world world' alike
  unfold CallLayer.serve
  cases request.pattern with
  | none => exact answers request alike
  | some pattern =>
    dsimp only
    have received := pair.receive request alike
    rw [received.failure, received.context]
    cases (layer.receive request world).failure with
    | some error => exact ⟨rfl, pair.refuse _ error received.world⟩
    | none =>
      dsimp only
      have routed := pair.route pattern (layer.receive request world).context received.world
      rw [routed.failure, routed.context]
      cases (layer.route pattern (layer.receive request world).context
          (layer.receive request world).world).failure with
      | some error => exact ⟨rfl, pair.refuse _ error routed.world⟩
      | none =>
        dsimp only
        obtain ⟨same, after⟩ := answers _ routed.world
        rw [same]
        exact ⟨rfl, pair.close _ _ (pair.report _ _ after)⟩

end CallLayer.Matches

/-! ## The same world -/

/-- Worlds that are the same. -/
def Likeness.same (τ : Type) : Likeness τ τ where
  Holds world other := other = world
  bags_eq alike := congrArg World.bags alike
  withBags alike bags := congrArg (fun world => { world with bags }) alike

theorem Hook.matches_same (hook : Hook τ) : hook.Matches (.same τ) hook where
  received context := by
    rintro world _ rfl
    exact ⟨rfl, rfl, rfl⟩
  routed context := by
    rintro world _ rfl
    exact ⟨rfl, rfl, rfl⟩
  sent context := by
    rintro world _ rfl
    rfl
  failed context error := by
    rintro world _ rfl
    rfl

theorem Handler.matches_same (handler : Handler τ) : Handler.Matches (.same τ) handler handler := by
  rintro request world _ rfl
  exact ⟨rfl, rfl⟩

/-! ## Observation -/

namespace World

/-- Nothing but the journal is beside the world. -/
theorem journaled_journal (world : World (τ × List CallEvent)) :
    world.plain.journaled world.journal = world := rfl

end World

/-- A world is like the one with a journal beside it. -/
def Likeness.observed (τ : Type) : Likeness τ (τ × List CallEvent) where
  Holds world other := other.plain = world
  bags_eq alike := congrArg World.bags alike
  withBags alike bags := congrArg (fun world => { world with bags }) alike

theorem Hook.observed_matches (place : Nat) (hook : Hook τ) :
    hook.Matches (.observed τ) (hook.observed place) where
  received context := by
    rintro _ world rfl
    exact ⟨rfl, rfl, rfl⟩
  routed context := by
    rintro _ world rfl
    exact ⟨rfl, rfl, rfl⟩
  sent context := by
    rintro _ world rfl
    rfl
  failed context error := by
    rintro _ world rfl
    rfl

/-- Observed hooks are numbered from left to right. -/
theorem Hook.observedFrom_eq_map (place : Nat) (hooks : List (Hook τ)) :
    observedFrom place hooks = (hooks.zipIdx place).map fun h => h.1.observed h.2 := by
  induction hooks generalizing place with
  | nil => rfl
  | cons hook hooks ih => rw [observedFrom, ih, List.zipIdx_cons, List.map_cons]

theorem Hook.pipeline_observedFrom_matches (place : Nat) (hooks : List (Hook τ)) :
    (pipeline hooks).Matches (.observed τ) (pipeline (observedFrom place hooks)) := by
  have pairs := pipeline_matches (fun h : Hook τ × Nat => observed_matches h.2 h.1)
    (hooks.zipIdx place)
  rw [← observedFrom_eq_map, List.zipIdx_map_fst] at pairs
  exact pairs

theorem Handler.observed_matches (handler : Handler τ) :
    Handler.Matches (.observed τ) handler handler.observed := by
  rintro request _ world rfl
  exact ⟨rfl, rfl⟩

/-- Beside what a call does, an observed one leaves a journal. -/
theorem CallLayer.Matches.exists_journal {layer : CallLayer τ}
    {observed : CallLayer (τ × List CallEvent)} (pair : layer.Matches (.observed τ) observed)
    (handler : Handler τ) (request : Request) (world : World τ) :
    ∃ journal, observed.serve handler.observed request (world.journaled []) =
      ((layer.serve handler request world).1,
        (layer.serve handler request world).2.journaled journal) := by
  let served := observed.serve handler.observed request (world.journaled [])
  obtain ⟨response, after⟩ : served.1 = (layer.serve handler request world).1 ∧
      served.2.plain = (layer.serve handler request world).2 :=
    pair.serve handler.observed_matches request rfl
  refine ⟨served.2.journal, Prod.ext response ?_⟩
  dsimp only
  rw [← after, World.journaled_journal]

end BearerGate
