/-
Values that only some registrations touch. If the modules of all others, the adapters
and the transport spare what a probe shows, then nothing invoked for them changes it
(`Undisturbed.perform`), and it is there when the workflow has been built.
-/
import GuidedLogin.Proofs.Blueprint

namespace GuidedLogin

variable {κ : Type} [DecidableEq κ] {Config : κ → Type} {Act Ω β : Type}

namespace Blueprint

def Shows (plan : Blueprint Config Act Ω) (safe : (key : κ) → Config key → Prop)
    (probe : Common Act Ω → β) (value : β) (scope : Scope Config Act Ω) : Prop :=
  (∀ owner registration, plan.registrations[owner]? = some registration →
    safe registration.key (scope.configs registration.key owner)) ∧ probe scope.common = value

structure Undisturbed (plan : Blueprint Config Act Ω) (special : κ → Prop)
    (safe : (key : κ) → Config key → Prop) (probe : Common Act Ω → β) : Prop where
  registered : ∀ registration ∈ plan.registrations, ¬ special registration.key →
    safe registration.key registration.config
  modules : ∀ registration ∈ plan.registrations, ¬ special registration.key →
    (plan.modules registration.key).Spares (safe registration.key) probe
  setups : ∀ registration ∈ plan.registrations, special registration.key → ∀ view value,
    view.Shows (safe registration.key) probe value →
      ((plan.modules registration.key).setup view).2.Shows (safe registration.key) probe value
  adapters : ∀ action adapt, plan.adapter? action = some adapt → ∀ request value,
    (adapt request).Maintains fun common => probe common = value
  transport : ∀ request limit context value,
    (Proc.within limit (plan.transport request)).Maintains
      fun outside => probe ⟨context, outside⟩ = value

variable {plan : Blueprint Config Act Ω} {visit : Visit Act} {special : κ → Prop}
variable {safe : (key : κ) → Config key → Prop} {probe : Common Act Ω → β} {value next : β}

theorem Shows.set {scope : Scope Config Act Ω} {owner : Nat} {registration : Registration Config}
    (shown : plan.Shows safe probe value scope)
    (registered : plan.registrations[owner]? = some registration)
    {view : View (Config registration.key) Act Ω}
    (left : view.Shows (safe registration.key) probe next) :
    plan.Shows safe probe next ((Scope.viewPart registration.key owner).set view scope) := by
  refine ⟨?_, left.2⟩
  intro index other found
  change safe other.key
    (Scope.setConfig scope.configs registration.key owner view.config other.key index)
  by_cases here : index = owner
  · subst here
    rw [registered] at found
    cases found
    rw [Scope.setConfig_self]
    exact left.1
  · rw [Scope.setConfig_of_ne _ _ _ _ here]
    exact shown.1 index other found

theorem Shows.get {scope : Scope Config Act Ω} {owner : Nat} {registration : Registration Config}
    (shown : plan.Shows safe probe value scope)
    (registered : plan.registrations[owner]? = some registration) :
    ((Scope.viewPart registration.key owner).get scope).Shows (safe registration.key) probe value :=
  ⟨shown.1 owner registration registered, shown.2⟩

theorem run_perform_transport (request : Request) (scope : Scope Config Act Ω) :
    ((plan.workflow.perform visit (.transport request)).run scope).2 =
      Scope.outsidePart.set
        ((Proc.within plan.settings.timeout.milliseconds (plan.transport request)).run
          scope.common.outside).2 scope := by
  rw [Workflow.run_perform_transport]
  change ((Proc.within _ ((plan.transport request).on Scope.outsidePart)).run scope).2 = _
  rw [Proc.within_on, Proc.run_on _ Scope.outsidePart_lawful]
  rfl

theorem run_perform_adapter (plan : Blueprint Config Act Ω) (visit : Visit Act) (position : Nat)
    (request : Request) (scope : Scope Config Act Ω) :
    (plan.workflow.perform visit (.adapter position request)).run scope = (.ok .nothing, scope) ∨
      ∃ action adapt, plan.adapter? action = some adapt ∧
        (plan.workflow.perform visit (.adapter position request)).run scope =
          (((adapt request).run scope.common).1.map .request,
            Scope.commonPart.set ((adapt request).run scope.common).2 scope) := by
  rcases visit with (base | step) | _
  · exact Or.inl rfl
  · have performed : plan.workflow.perform (.turn (.next step)) (.adapter position request) =
        Workflow.performAt (plan.workflow.adapters step) position fun work =>
          (work request).bind fun request => .done (.request request) := rfl
    rw [performed]
    cases found : (plan.workflow.adapters step)[position]? with
    | none =>
        unfold Workflow.performAt
        rw [found]
        exact Or.inl rfl
    | some work =>
        obtain ⟨action, _, adapts⟩ := List.mem_filterMap.mp (List.mem_of_getElem? found)
        obtain ⟨adapt, known, rfl⟩ := Option.map_eq_some_iff.mp adapts
        refine Or.inr ⟨action, adapt, known, ?_⟩
        rw [Workflow.performAt_of_getElem? found, Proc.run_bind_done,
          Proc.run_on _ Scope.commonPart_lawful]
        rfl
  · exact Or.inl rfl

theorem Undisturbed.perform (undisturbed : plan.Undisturbed special safe probe)
    {invocation : Invocation Act} {scope : Scope Config Act Ω}
    (others : ∀ stage position owner key, invocation.slot = .hook stage position →
      plan.ownerAt? stage position = some owner → plan.keyAt? owner = some key → ¬ special key)
    (shown : plan.Shows safe probe value scope) :
    plan.Shows safe probe value ((plan.workflow.perform visit invocation).run scope).2 := by
  cases placed : invocation.slot with
  | hook stage position =>
      rcases run_perform_hook visit placed scope with
        ⟨_, ran⟩ | ⟨owner, registration, hook, found, origin, ran⟩
      · rw [ran]
        exact shown
      · have key := keyAt?_of_origin origin
        have member := List.mem_of_getElem? origin.registered
        have other := others stage position owner registration.key placed found key
        have spares := undisturbed.modules registration member other
        obtain ⟨view, configured, yielded⟩ := origin.yielded
        have kept := spares.hooks view (configured ▸ undisturbed.registered registration member other)
          hook yielded value
        rw [ran]
        exact shown.set origin.registered
          (kept.answer invocation _ (shown.get origin.registered))
  | adapter position =>
      cases invocation with
      | adapter _ request =>
          rcases run_perform_adapter plan visit _ request scope with
            same | ⟨action, adapt, known, left⟩
          · rw [same]
            exact shown
          · rw [left]
            exact ⟨shown.1, undisturbed.adapters action adapt known request value scope.common
              shown.2⟩
      | _ => cases placed
  | transport =>
      cases invocation with
      | transport request =>
          rw [run_perform_transport]
          exact ⟨shown.1, undisturbed.transport request _ scope.common.context value
            scope.common.outside shown.2⟩
      | _ => cases placed

theorem installFrom_maintains {holds : Scope Config Act Ω → Prop}
    (modules : (key : κ) → Module (Config key) Act Ω) (first : Nat)
    (registrations : List (Registration Config))
    (kept : ∀ index registration scope, registrations[index]? = some registration →
      holds scope → holds ((Scope.viewPart registration.key (first + index)).set
        ((modules registration.key).setup
          ((Scope.viewPart registration.key (first + index)).get scope)).2 scope))
    (building : Workflow.Building Config Act Ω) (start : holds building.scope) :
    holds (Workflow.installFrom modules first registrations building).scope := by
  induction registrations generalizing first building with
  | nil => exact start
  | cons registration rest ih =>
      rw [Workflow.installFrom]
      refine ih (first + 1) ?_ _ (kept 0 registration building.scope rfl start)
      intro index other scope found held
      have later := kept (index + 1) other scope found held
      rwa [← Nat.add_assoc, Nat.add_right_comm] at later

theorem Undisturbed.built (undisturbed : plan.Undisturbed special safe probe)
    (registered : ∀ registration ∈ plan.registrations,
      safe registration.key registration.config) :
    plan.Shows safe probe (probe ⟨∅, plan.outside⟩) plan.engine.inner := by
  refine installFrom_maintains plan.modules 0 plan.registrations ?_ _ ?_
  · intro index registration scope placed shown
    rw [Nat.zero_add]
    have member := List.mem_of_getElem? placed
    apply shown.set placed
    by_cases known : special registration.key
    · exact undisturbed.setups registration member known _ _ (shown.get placed)
    · exact (undisturbed.modules registration member known).setup _ _ (shown.get placed)
  · refine ⟨?_, rfl⟩
    intro owner registration placed
    change safe registration.key
      (Workflow.configsOf plan.modules plan.registrations registration.key owner)
    rw [configsOf_registered placed]
    exact registered registration (List.mem_of_getElem? placed)

end Blueprint

end GuidedLogin
