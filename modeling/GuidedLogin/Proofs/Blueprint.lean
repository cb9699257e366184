/-
What built workflows do. Everything that one invokes is a hook that a registration
yields, at work on what that registration sees (`run_perform_hook`), or an adapter or the
transport (`Workflow.perform`).
-/
import GuidedLogin.Proofs.Installed
import GuidedLogin.Proofs.Record
import GuidedLogin.Proofs.Sparing
import Mathlib.Data.List.Basic

namespace GuidedLogin

/-- What is done when a hook is invoked, nothing if it is one of another stage. -/
def Hook.answer {σ Act : Type} : Hook σ Act → Invocation Act → Proc σ (Yield Act)
  | .init work, .init _ => work.bind fun _ => .done .nothing
  | .start work, .start _ request => (work request).bind fun built => .done (.request built)
  | .next work, .next _ step request => (work step request).bind fun built => .done (.request built)
  | .response work, .response _ reply => (work reply).bind fun _ => .done .nothing
  | .transform work, .transform _ reply => (work reply).bind fun made => .done (.produced made)
  | .node work, .node _ given => (work given).bind fun made => .done (.node made)
  | .success work, .success _ given => (work given).bind fun made => .done (.success made)
  | .signOff work, .signOff _ request => (work request).bind fun built => .done (.request built)
  | _, _ => .done .nothing

theorem Proc.bind_on {τ σ α β : Type} (part : Part τ σ) (work : Proc σ α) (next : α → Proc σ β) :
    (work.bind next).on part = (work.on part).bind fun value => (next value).on part := by
  induction work with
  | done value => rfl
  | fail fault => rfl
  | read rest ih => exact congrArg Proc.read (funext fun whole => ih (part.get whole))
  | write value rest ih =>
      exact congrArg Proc.read (funext fun whole => congrArg (Proc.write _) ih)
  | wait duration rest ih => exact congrArg (Proc.wait duration) ih

private theorem Hook.answer_on {τ σ Act : Type} (part : Part τ σ) (hook : Hook σ Act)
    (invocation : Invocation Act) :
    (hook.on part).answer invocation = (hook.answer invocation).on part := by
  cases hook <;> cases invocation <;> simp only [Hook.on, Hook.answer, Proc.bind_on] <;> rfl

theorem Hook.Maintains.answer {σ Act : Type} {holds : σ → Prop} {hook : Hook σ Act}
    (kept : hook.Maintains holds) (invocation : Invocation Act) :
    (hook.answer invocation).Maintains holds := by
  cases hook <;> cases invocation <;> first
    | exact Proc.maintains_done _
    | exact Proc.maintains_bind kept fun _ => Proc.maintains_done _
    | exact Proc.maintains_bind (kept _) fun _ => Proc.maintains_done _
    | exact Proc.maintains_bind (kept _ _) fun _ => Proc.maintains_done _

namespace Workflow

variable {κ S Act : Type} {workflow : Workflow κ S Act} {visit : Visit Act}

private theorem performAt_map {W V : Type} (hooks : List (Installed W)) (wrap : W → V)
    (position : Nat)
    (perform : W → Proc S (Yield Act)) (other : Installed V → Proc S (Yield Act))
    (same : ∀ installed : Installed W,
      perform installed.work = other ⟨installed.owner, wrap installed.work⟩) :
    performAt (works hooks) position perform =
      performAt (hooks.map fun installed => ⟨installed.owner, wrap installed.work⟩) position
        other := by
  unfold performAt works
  rw [List.getElem?_map, List.getElem?_map]
  cases hooks[position]? with
  | none => rfl
  | some installed => exact same installed

private theorem perform_hook {invocation : Invocation Act} {stage : Stage} {position : Nat}
    (placed : invocation.slot = .hook stage position) :
    workflow.perform visit invocation =
      performAt (workflow.hooks.stage stage) position fun installed =>
        installed.work.answer invocation := by
  cases invocation <;> first
    | cases placed; done
    | cases placed; exact performAt_map _ _ _ _ _ fun _ => rfl

end Workflow

structure Blueprint {κ : Type} (Config : κ → Type) (Act Ω : Type) where
  modules : (key : κ) → Module (Config key) Act Ω
  settings : Settings Config
  id : InstanceId
  transport : Request → Proc Ω Response
  adapter? : Act → Option (Request → Proc (Common Act Ω) Request)
  outside : Ω

namespace Blueprint

variable {κ : Type} [DecidableEq κ] {Config : κ → Type} {Act Ω : Type}

def workflow (plan : Blueprint Config Act Ω) : Workflow κ (Scope Config Act Ω) Act :=
  (Workflow.build plan.modules plan.settings plan.id plan.transport plan.adapter? plan.outside).1

def engine (plan : Blueprint Config Act Ω) : Engine (Scope Config Act Ω) Act :=
  (Workflow.build plan.modules plan.settings plan.id plan.transport plan.adapter? plan.outside).2

def registrations (plan : Blueprint Config Act Ω) : List (Registration Config) :=
  Registry.ordered plan.settings.registrations

def keyAt? (plan : Blueprint Config Act Ω) (owner : Nat) : Option κ :=
  plan.registrations[owner]?.map Registration.key

def ownerAt? (plan : Blueprint Config Act Ω) (stage : Stage) (position : Nat) : Option Nat :=
  (plan.workflow.hooks.stage stage)[position]?.map Installed.owner

structure Origin (plan : Blueprint Config Act Ω) (stage : Stage) (owner : Nat)
    (registration : Registration Config)
    (hook : Hook (View (Config registration.key) Act Ω) Act) : Prop where
  registered : plan.registrations[owner]? = some registration
  yielded : ∃ view, view.config = registration.config ∧
    hook ∈ ((plan.modules registration.key).setup view).1
  staged : hook.stage = stage

variable {plan : Blueprint Config Act Ω} {visit : Visit Act}

theorem configsOf_registered {owner : Nat} {registration : Registration Config}
    (registered : plan.registrations[owner]? = some registration) :
    Workflow.configsOf plan.modules plan.registrations registration.key owner =
      registration.config := by
  simp [Workflow.configsOf, registered, Registry.configAt?]

omit [DecidableEq κ] in
theorem keyAt?_of_origin {stage : Stage} {owner : Nat} {registration : Registration Config}
    {hook : Hook (View (Config registration.key) Act Ω) Act}
    (origin : plan.Origin stage owner registration hook) :
    plan.keyAt? owner = some registration.key := by
  unfold keyAt?
  rw [origin.registered]
  rfl

/-- Every installed hook is one that a registration yields. -/
theorem exists_origin {stage : Stage} {position : Nat}
    {installed : Installed (Hook (Scope Config Act Ω) Act)}
    (found : (plan.workflow.hooks.stage stage)[position]? = some installed) :
    ∃ (registration : Registration Config)
      (hook : Hook (View (Config registration.key) Act Ω) Act),
      plan.Origin stage installed.owner registration hook ∧
        installed.work = hook.on (Scope.viewPart registration.key installed.owner) := by
  have member := List.mem_of_getElem? found
  unfold workflow at member
  rw [Workflow.stage_build] at member
  obtain ⟨inAll, staged⟩ := List.mem_filter.mp member
  obtain ⟨index, registration, view, hook, registered, placed, configured, yielded, same⟩ :=
    Workflow.mem_installations inAll
  rw [Nat.zero_add] at placed configured
  refine ⟨registration, hook, ⟨?_, ⟨view, ?_, yielded⟩, ?_⟩, same⟩
  · rw [placed]
    exact registered
  · rw [configured]
    exact configsOf_registered registered
  · rw [same, Workflow.stage_on] at staged
    exact of_decide_eq_true staged

theorem owned_stage {owner : Nat} {registration : Registration Config}
    (registered : plan.registrations[owner]? = some registration) (stage : Stage) :
    ∃ view, (plan.workflow.hooks.stage stage).filter (·.owner = owner) =
      (((plan.modules registration.key).setup view).1.filter (·.stage = stage)).map fun hook =>
        ⟨owner, hook.on (Scope.viewPart registration.key owner)⟩ := by
  obtain ⟨view, same⟩ := Workflow.owned_installations plan.modules 0
    ⟨Workflow.configsOf plan.modules plan.registrations, ⟨∅, plan.outside⟩⟩ registered
  rw [Nat.zero_add] at same
  unfold registrations at same
  refine ⟨view, ?_⟩
  unfold workflow
  rw [Workflow.stage_build, List.filter_comm, same, List.filter_map]
  congr 1
  apply List.filter_congr
  intro hook _
  simp [Workflow.stage_on]

theorem exists_position {stage : Stage} {owner : Nat} {registration : Registration Config}
    (registered : plan.registrations[owner]? = some registration)
    (yields : ∀ view, ∃ hook ∈ ((plan.modules registration.key).setup view).1,
      hook.stage = stage) :
    ∃ position, position < (plan.workflow.hooks.stage stage).length ∧
      plan.ownerAt? stage position = some owner := by
  obtain ⟨view, same⟩ := owned_stage registered stage
  obtain ⟨hook, yielded, staged⟩ := yields view
  have listed : (⟨owner, hook.on (Scope.viewPart registration.key owner)⟩ :
      Installed (Hook (Scope Config Act Ω) Act)) ∈
        (plan.workflow.hooks.stage stage).filter (·.owner = owner) := by
    rw [same]
    exact List.mem_map.mpr ⟨hook, List.mem_filter.mpr ⟨yielded, decide_eq_true staged⟩, rfl⟩
  obtain ⟨position, within, found⟩ := List.mem_iff_getElem.mp (List.mem_filter.mp listed).1
  refine ⟨position, within, ?_⟩
  unfold ownerAt?
  rw [List.getElem?_eq_getElem within, found, Option.map_some]

/-- What is invoked at a stage is a hook of a registration, at work on what that sees. -/
theorem run_perform_hook (visit : Visit Act) {invocation : Invocation Act} {stage : Stage}
    {position : Nat}
    (placed : invocation.slot = .hook stage position) (scope : Scope Config Act Ω) :
    (plan.ownerAt? stage position = none ∧
        (plan.workflow.perform visit invocation).run scope = (.ok .nothing, scope)) ∨
      ∃ (owner : Nat) (registration : Registration Config)
        (hook : Hook (View (Config registration.key) Act Ω) Act),
        plan.ownerAt? stage position = some owner ∧
        plan.Origin stage owner registration hook ∧
        (plan.workflow.perform visit invocation).run scope =
          (((hook.answer invocation).run ((Scope.viewPart registration.key owner).get scope)).1,
            (Scope.viewPart registration.key owner).set
              ((hook.answer invocation).run
                ((Scope.viewPart registration.key owner).get scope)).2 scope) := by
  rw [Workflow.perform_hook placed]
  unfold Workflow.performAt ownerAt?
  cases found : (plan.workflow.hooks.stage stage)[position]? with
  | none => exact Or.inl ⟨rfl, rfl⟩
  | some installed =>
      obtain ⟨registration, hook, origin, same⟩ := exists_origin found
      refine Or.inr ⟨installed.owner, registration, hook, rfl, origin, ?_⟩
      change (installed.work.answer invocation).run scope = _
      rw [same, Hook.answer_on]
      exact Proc.run_on _ (Scope.viewPart_lawful _ _) _ _

end Blueprint

end GuidedLogin
