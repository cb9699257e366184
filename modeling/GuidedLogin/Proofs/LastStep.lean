/-
The last step among the shared values. Only the module that makes nodes of JSON touches
it: its hooks forget the step when a flow starts and when one succeeds, and remember
every step they see (`effect_of_mem`).
-/
import GuidedLogin.Proofs.Course
import GuidedLogin.Proofs.Schedule
import GuidedLogin.Proofs.StableOrder
import GuidedLogin.Proofs.StockSparing
import GuidedLogin.Proofs.Undisturbed

namespace GuidedLogin

variable {ι : Type} {Own : ι → Type} {C Act Ω : Type}

structure Module.Bystander (module : Module C Act Ω) (safe : C → Prop) : Prop where
  spares : module.Spares safe (Common.shared lastContinueKey)
  apart : ∀ view, safe view.config → ∀ hook ∈ (module.setup view).1,
    hook.stage ≠ .transform ∧ hook.stage ≠ .node ∧ hook.stage ≠ .success

def kept (pending : Option (ContinueNode Act)) : Option (Valued Act) :=
  pending.map fun step => ⟨.step, step⟩

namespace JsonTransform

variable {safe : JsonTransformConfig Act Ω → Prop} {pending : Option (ContinueNode Act)}

abbrev Keeping (pending : Option (ContinueNode Act)) (sight : Sight Act Ω) : Prop :=
  sight.Shows (fun _ => True) (Common.shared lastContinueKey) (kept pending)

private theorem keeping_erase (sight : Sight Act Ω) :
    Keeping none (sight.withContext (sight.context.erase lastContinueKey)) :=
  ⟨trivial, shared_erase_self sight lastContinueKey⟩

private theorem keeping_set (sight : Sight Act Ω) (step : ContinueNode Act) :
    Keeping (some step) (sight.withContext (sight.context.set lastContinueKey .step step)) :=
  ⟨trivial, shared_set_self sight lastContinueKey .step step⟩

private theorem get_of_keeping {sight : Sight Act Ω} (keeping : Keeping pending sight) :
    sight.context.get lastContinueKey .step = .ok pending :=
  Context.get_of_find? keeping.2

/-- A node as the module makes it: an error has nothing to be retried from yet. -/
def Fresh (node : Node Act) : Prop := ∀ error, node = .error error → error.retry = none

private theorem fresh_errorNode (config : JsonTransformConfig Act Ω) (response : Response)
    (body : Option JsonObject) : Fresh (config.errorNode response body) := by
  intro error same
  unfold JsonTransformConfig.errorNode at same
  dsimp only at same
  split at same
  · cases same
    rfl
  · cases same

private theorem fresh_transform (config : JsonTransformConfig Act Ω) (response : Response)
    (outside : Ω)
    {node : Node Act} {after : Ω}
    (made : config.transform response outside = .ok (some node, after)) : Fresh node := by
  unfold JsonTransformConfig.transform at made
  dsimp only at made
  split at made
  · cases made
    exact fresh_errorNode config response _
  · split at made
    · cases made
    · split at made
      · cases made
      · split at made
        · cases made
          intro error same
          cases same
        · cases stepped : config.stepNode response _ outside with
          | error cause =>
              rw [stepped] at made
              cases made
          | ok result =>
              rw [stepped] at made
              cases made
              unfold JsonTransformConfig.stepNode at stepped
              cases built : config.template response _ with
              | error cause =>
                  rw [built] at stepped
                  cases stepped
              | ok template =>
                  rw [built] at stepped
                  cases stepped
                  intro error same
                  cases same

/-- What becomes of a node: an error that cannot be retried yet gets the kept step. -/
def linked (pending : Option (ContinueNode Act)) : Node Act → Node Act
  | .error error => .error { error with retry := error.retry.or pending }
  | node => node

def lastStep (pending : Option (ContinueNode Act)) : Node Act → Option (ContinueNode Act)
  | .continuation step => some step
  | _ => pending

private theorem run_linkRetry {sight : Sight Act Ω} (keeping : Keeping pending sight)
    (node : Node Act) :
    ((linkRetry node : Proc (Sight Act Ω) (Node Act)).run sight).1 = .ok (linked pending node) ∧
      Keeping (lastStep pending node)
        ((linkRetry node : Proc (Sight Act Ω) (Node Act)).run sight).2 := by
  cases node with
  | continuation step => exact ⟨rfl, keeping_set sight step⟩
  | success success => exact ⟨rfl, keeping⟩
  | failure cause => exact ⟨rfl, keeping⟩
  | error error =>
      obtain ⟨input, message, retry⟩ := error
      cases retry with
      | some step => exact ⟨rfl, keeping⟩
      | none =>
          have ran : (linkRetry (.error ⟨input, message, none⟩) :
              Proc (Sight Act Ω) (Node Act)).run sight =
                (.ok (linked pending (.error ⟨input, message, none⟩)), sight) := by
            change ((Proc.ofExcept (sight.context.get lastContinueKey .step)).bind _).run sight = _
            rw [get_of_keeping keeping]
            cases pending <;> rfl
          rw [ran]
          exact ⟨rfl, keeping⟩

/-- What the hooks of the module do while a step is kept. -/
def Effect {σ : Type} (keeping : Option (ContinueNode Act) → σ → Prop)
    (pending : Option (ContinueNode Act)) (invocation : Invocation Act)
    (result : Except Fault (Yield Act) × σ) : Prop :=
  match invocation with
  | .start _ request => result.1 = .ok (.request request) ∧ keeping none result.2
  | .transform _ _ =>
      keeping pending result.2 ∧ ∀ node, result.1 = .ok (.produced (some node)) → Fresh node
  | .node _ node =>
      result.1 = .ok (.node (linked pending node)) ∧ keeping (lastStep pending node) result.2
  | .success _ node => result.1 = .ok (.success node) ∧ keeping none result.2
  | _ => False

private theorem Effect.map {σ τ : Type} {keeping : Option (ContinueNode Act) → σ → Prop}
    {wider : Option (ContinueNode Act) → τ → Prop} {invocation : Invocation Act}
    {outcome : Except Fault (Yield Act)} {state : σ} {whole : τ}
    (effect : Effect keeping pending invocation (outcome, state))
    (held : ∀ pending, keeping pending state → wider pending whole) :
    Effect wider pending invocation (outcome, whole) := by
  unfold Effect at effect ⊢
  split at effect
  · exact ⟨effect.1, held _ effect.2⟩
  · exact ⟨held _ effect.1, effect.2⟩
  · exact ⟨effect.1, held _ effect.2⟩
  · exact ⟨effect.1, held _ effect.2⟩
  · exact effect

theorem run_transform (response : Response) (sight : Sight Act Ω) :
    (transform response : Proc (Sight Act Ω) (Option (Node Act))).run sight =
      match sight.config.transform response sight.common.outside with
      | .ok (made, outside) => (.ok made, View.outsidePart.set outside sight)
      | .error cause => (.error (.error cause), sight) := by
  unfold transform
  rw [Proc.run_tryStep]
  cases sight.config.transform response sight.common.outside <;> rfl

private theorem effect_transform {sight : Sight Act Ω} (keeping : Keeping pending sight)
    (position : Nat)
    (response : Response) :
    Effect Keeping pending (.transform position response)
      (((transform response : Proc (Sight Act Ω) (Option (Node Act))).bind fun made =>
        .done (Yield.produced made)).run sight) := by
  rw [Proc.run_bind_done, run_transform]
  cases made : sight.config.transform response sight.common.outside with
  | error cause =>
      refine ⟨keeping, ?_⟩
      intro node same
      cases same
  | ok result =>
      obtain ⟨found, outside⟩ := result
      refine ⟨keeping, ?_⟩
      intro node same
      cases same
      exact fresh_transform sight.config response sight.common.outside made

private theorem effect_of_mem {view sight : Sight Act Ω} {hook : Hook (Sight Act Ω) Act}
    {invocation : Invocation Act} {position : Nat}
    (member : hook ∈ (Module.jsonTransform.setup view).1)
    (placed : invocation.slot = .hook hook.stage position) (keeping : Keeping pending sight) :
    Effect Keeping pending invocation ((hook.answer invocation).run sight) := by
  have listed : hook = .start (fun request => do forget; pure request) ∨
      hook = .transform transform ∨ hook = .node linkRetry ∨
      hook = .success (fun node => do forget; pure node) := by
    simpa [Module.jsonTransform, Module.ofHooks] using member
  rcases listed with rfl | rfl | rfl | rfl
  · cases invocation <;> cases placed
    exact ⟨rfl, keeping_erase sight⟩
  · cases invocation <;> cases placed
    exact effect_transform keeping position _
  · cases invocation <;> cases placed
    rename_i node
    obtain ⟨linkedTo, keptTo⟩ := run_linkRetry keeping node
    change Effect Keeping pending _ (((linkRetry node).bind fun made => .done (Yield.node made)).run sight)
    rw [Proc.run_bind_done, linkedTo]
    exact ⟨rfl, keptTo⟩
  · cases invocation <;> cases placed
    exact ⟨rfl, keeping_erase sight⟩

end JsonTransform

variable [DecidableEq ι]

abbrev CatalogKey.ownSafe (safe : (id : ι) → Own id → Prop) :
    (key : CatalogKey ι) → key.Config Own Act Ω → Prop :=
  CatalogKey.safeAt safe (fun _ => True) fun _ => True

namespace Blueprint

/-- A workflow of stock modules and others, none of which but the module that makes nodes of
JSON touches the last step. -/
structure StepAlone (plan : Blueprint (CatalogKey.Config Own Act Ω) Act Ω)
    (own : (id : ι) → Module (Own id) Act Ω) (safe : (id : ι) → Own id → Prop) : Prop where
  catalog : plan.modules = CatalogKey.module own
  within : ∀ registration ∈ plan.settings.registrations,
    CatalogKey.ownSafe safe registration.key registration.config
  added : ∀ registration ∈ plan.settings.registrations, ∀ id,
    registration.key = .added id → (own id).Spares (safe id) (Common.shared lastContinueKey)
  adapters : ∀ action adapt, plan.adapter? action = some adapt → ∀ request value,
    (adapt request).Maintains fun common => common.shared lastContinueKey = value

/-- A workflow of stock modules and bystanders, none of which but the module that makes
nodes of JSON touches the last step. -/
structure JsonAlone (plan : Blueprint (CatalogKey.Config Own Act Ω) Act Ω)
    (own : (id : ι) → Module (Own id) Act Ω) (safe : (id : ι) → Own id → Prop) : Prop where
  catalog : plan.modules = CatalogKey.module own
  within : ∀ registration ∈ plan.settings.registrations,
    CatalogKey.ownSafe safe registration.key registration.config
  bystanders : ∀ registration ∈ plan.settings.registrations, ∀ id,
    registration.key = .added id → (own id).Bystander (safe id)
  adapters : ∀ action adapt, plan.adapter? action = some adapt → ∀ request value,
    (adapt request).Maintains fun common => common.shared lastContinueKey = value

variable {plan : Blueprint (CatalogKey.Config Own Act Ω) Act Ω}
variable {own : (id : ι) → Module (Own id) Act Ω} {safe : (id : ι) → Own id → Prop}

/-- A step is kept among the shared values, or none is. -/
abbrev Keeping (plan : Blueprint (CatalogKey.Config Own Act Ω) Act Ω)
    (safe : (id : ι) → Own id → Prop) (pending : Option (ContinueNode Act))
    (scope : Scope (CatalogKey.Config Own Act Ω) Act Ω) : Prop :=
  plan.Shows (CatalogKey.ownSafe safe) (Common.shared lastContinueKey) (kept pending) scope

theorem mem_settings {κ : Type} [DecidableEq κ] {Config : κ → Type}
    {plan : Blueprint Config Act Ω} {registration : Registration Config}
    (member : registration ∈ plan.registrations) :
    registration ∈ plan.settings.registrations := by
  unfold registrations at member
  rw [Registry.ordered_eq_insertionSort] at member
  exact (List.mem_insertionSort _).mp member

omit [DecidableEq ι] in
theorem JsonAlone.stepAlone (alone : plan.JsonAlone own safe) : plan.StepAlone own safe where
  catalog := alone.catalog
  within := alone.within
  added := fun registration member id same => (alone.bystanders registration member id same).spares
  adapters := alone.adapters

theorem StepAlone.undisturbed (alone : plan.StepAlone own safe) :
    plan.Undisturbed (· = .jsonTransform) (CatalogKey.ownSafe safe)
      (Common.shared lastContinueKey) where
  registered := by
    intro registration member _
    exact alone.within registration (mem_settings member)
  modules := by
    intro registration member other
    have added := alone.added registration (mem_settings member)
    rw [alone.catalog]
    obtain ⟨key, config, priority, mode⟩ := registration
    cases key with
    | endpoint => exact spares_endpoint _ _
    | customHeader => exact spares_customHeader _ _
    | cookie => exact spares_cookie lastContinueKey_ne
    | jsonTransform => exact absurd rfl other
    | added id => exact added id rfl
  setups := by
    intro registration member json view value shown
    rw [alone.catalog]
    obtain ⟨key, config, priority, mode⟩ := registration
    cases json
    exact shown
  adapters := alone.adapters
  transport := by
    intro request limit context value outside shown
    exact shown

/-- Only the module that makes nodes of JSON has hooks where nodes are made. -/
theorem JsonAlone.json_of_stage (alone : plan.JsonAlone own safe) {stage : Stage} {owner : Nat}
    {registration : Registration (CatalogKey.Config Own Act Ω)}
    {hook : Hook (View (CatalogKey.Config Own Act Ω registration.key) Act Ω) Act}
    (origin : plan.Origin stage owner registration hook)
    (making : stage = .transform ∨ stage = .node ∨ stage = .success) :
    registration.key = .jsonTransform := by
  have member := mem_settings (List.mem_of_getElem? origin.registered)
  have bystanders := alone.bystanders registration member
  have within := alone.within registration member
  obtain ⟨view, configured, yielded⟩ := origin.yielded
  have staged := origin.staged
  rw [alone.catalog] at yielded
  obtain ⟨key, config, priority, mode⟩ := registration
  cases key with
  | jsonTransform => rfl
  | endpoint =>
      have stages := stage_endpoint yielded
      rw [staged] at stages
      rcases making with rfl | rfl | rfl <;> simp at stages
  | customHeader =>
      have stages := stage_customHeader yielded
      rw [staged] at stages
      rcases making with rfl | rfl | rfl <;> simp at stages
  | cookie =>
      have stages := stage_cookie yielded
      rw [staged] at stages
      rcases making with rfl | rfl | rfl <;> simp at stages
  | added id =>
      have apart := (bystanders id rfl).apart view (configured ▸ within) hook yielded
      rw [staged] at apart
      rcases making with same | same | same
      · exact absurd same apart.1
      · exact absurd same apart.2.1
      · exact absurd same apart.2.2

def JsonAt (plan : Blueprint (CatalogKey.Config Own Act Ω) Act Ω) (stage : Stage) (position : Nat) :
    Prop :=
  (plan.ownerAt? stage position).bind plan.keyAt? = some .jsonTransform

variable {pending : Option (ContinueNode Act)}

theorem StepAlone.perform_json (alone : plan.StepAlone own safe) (visit : Visit Act)
    (invocation : Invocation Act) {stage : Stage} {position : Nat}
    {scope : Scope (CatalogKey.Config Own Act Ω) Act Ω}
    (placed : invocation.slot = .hook stage position) (json : plan.JsonAt stage position)
    (keeping : plan.Keeping safe pending scope) :
    JsonTransform.Effect (plan.Keeping safe) pending invocation
      ((plan.workflow.perform visit invocation).run scope) := by
  unfold JsonAt at json
  rcases run_perform_hook visit placed scope with
    ⟨nobody, _⟩ | ⟨owner, registration, hook, owned, origin, ran⟩
  · rw [nobody] at json
    cases json
  · rw [owned] at json
    have same := (keyAt?_of_origin origin).symm.trans json
    obtain ⟨view, configured, yielded⟩ := origin.yielded
    have staged := origin.staged
    have registered := origin.registered
    rw [alone.catalog] at yielded
    rw [ran]
    obtain ⟨key, config, priority, mode⟩ := registration
    cases Option.some.inj same
    subst staged
    refine (JsonTransform.effect_of_mem yielded placed ⟨trivial, keeping.2⟩).map ?_
    intro next kept
    exact keeping.set registered ⟨trivial, kept.2⟩

theorem StepAlone.perform_other (alone : plan.StepAlone own safe) {visit : Visit Act}
    {invocation : Invocation Act}
    {scope : Scope (CatalogKey.Config Own Act Ω) Act Ω}
    (other : ∀ stage position, invocation.slot = .hook stage position →
      ¬ plan.JsonAt stage position)
    (keeping : plan.Keeping safe pending scope) :
    plan.Keeping safe pending ((plan.workflow.perform visit invocation).run scope).2 := by
  refine alone.undisturbed.perform ?_ keeping
  intro stage position owner key placed owned known json
  apply other stage position placed
  unfold JsonAt
  rw [owned, Option.bind_some, known, json]

theorem JsonAlone.jsonAt_of_owner (alone : plan.JsonAlone own safe) {stage : Stage}
    {position : Nat} (making : stage = .transform ∨ stage = .node ∨ stage = .success)
    (owned : plan.ownerAt? stage position ≠ none) : plan.JsonAt stage position := by
  unfold JsonAt
  unfold ownerAt? at owned ⊢
  cases found : (plan.workflow.hooks.stage stage)[position]? with
  | none =>
      rw [found] at owned
      exact absurd rfl owned
  | some installed =>
      obtain ⟨registration, hook, origin, _⟩ := exists_origin found
      rw [Option.map_some, Option.bind_some, keyAt?_of_origin origin,
        alone.json_of_stage origin making]

end Blueprint

end GuidedLogin
