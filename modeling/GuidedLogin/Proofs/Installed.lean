/-
Hooks of built workflows. The hooks at a stage are those that the setups of the
registrations yield for it, in execution order (`stage_build`), and each sees what its
registration does.
-/
import GuidedLogin.Proofs.Log

namespace GuidedLogin

namespace HookTable

variable {σ Act : Type}

def stage (table : HookTable σ Act) : Stage → List (Installed (Hook σ Act))
  | .init => table.init.map fun installed => ⟨installed.owner, .init installed.work⟩
  | .start => table.start.map fun installed => ⟨installed.owner, .start installed.work⟩
  | .next => table.next.map fun installed => ⟨installed.owner, .next installed.work⟩
  | .response => table.response.map fun installed => ⟨installed.owner, .response installed.work⟩
  | .transform => table.transform.map fun installed => ⟨installed.owner, .transform installed.work⟩
  | .node => table.node.map fun installed => ⟨installed.owner, .node installed.work⟩
  | .success => table.success.map fun installed => ⟨installed.owner, .success installed.work⟩
  | .signOff => table.signOff.map fun installed => ⟨installed.owner, .signOff installed.work⟩

theorem stage_empty (stage : Stage) : (empty : HookTable σ Act).stage stage = [] := by
  cases stage <;> rfl

theorem stage_install (table : HookTable σ Act) (owner : Nat) (hook : Hook σ Act) (stage : Stage) :
    (table.install owner hook).stage stage =
      table.stage stage ++ [⟨owner, hook⟩].filter (·.work.stage = stage) := by
  cases hook <;> cases stage <;> simp [install, HookTable.stage, Hook.stage]

theorem stage_installAll (table : HookTable σ Act) (owner : Nat) (hooks : List (Hook σ Act))
    (stage : Stage) :
    (table.installAll owner hooks).stage stage =
      table.stage stage ++ (hooks.map (Installed.mk owner)).filter (·.work.stage = stage) := by
  induction hooks generalizing table with
  | nil => simp [installAll]
  | cons hook rest ih =>
      have unfolded : table.installAll owner (hook :: rest) =
          (table.install owner hook).installAll owner rest := rfl
      rw [unfolded, ih, stage_install, List.append_assoc, ← List.filter_append]
      rfl

end HookTable

namespace Scope

variable {κ : Type} [DecidableEq κ] {Config : κ → Type} {Act Ω : Type}

theorem setConfig_self (configs : (key : κ) → Nat → Config key) (key : κ) (position : Nat)
    (config : Config key) : setConfig configs key position config key position = config := by
  unfold setConfig
  rw [dif_pos rfl, if_pos rfl]

theorem setConfig_of_ne (configs : (key : κ) → Nat → Config key) (key other : κ)
    {position index : Nat} (config : Config key) (apart : index ≠ position) :
    setConfig configs key position config other index = configs other index := by
  unfold setConfig
  by_cases same : key = other
  · rw [dif_pos same, if_neg apart]
  · rw [dif_neg same]

theorem setConfig_of_key_ne (configs : (key : κ) → Nat → Config key) {key other : κ}
    (position index : Nat) (config : Config key) (apart : key ≠ other) :
    setConfig configs key position config other index = configs other index := by
  unfold setConfig
  rw [dif_neg apart]

theorem setConfig_get (configs : (key : κ) → Nat → Config key) (key : κ) (position : Nat) :
    setConfig configs key position (configs key position) = configs := by
  funext other index
  by_cases same : key = other
  · subst same
    by_cases here : index = position
    · subst here
      exact setConfig_self configs key index _
    · exact setConfig_of_ne configs key key _ here
  · exact setConfig_of_key_ne configs position index _ same

theorem setConfig_setConfig (configs : (key : κ) → Nat → Config key) (key : κ) (position : Nat)
    (second first : Config key) :
    setConfig (setConfig configs key position first) key position second =
      setConfig configs key position second := by
  funext other index
  by_cases same : key = other
  · subst same
    by_cases here : index = position
    · subst here
      rw [setConfig_self, setConfig_self]
    · rw [setConfig_of_ne _ _ _ _ here, setConfig_of_ne _ _ _ _ here,
        setConfig_of_ne _ _ _ _ here]
  · rw [setConfig_of_key_ne _ _ _ _ same, setConfig_of_key_ne _ _ _ _ same,
      setConfig_of_key_ne _ _ _ _ same]

theorem viewPart_lawful (key : κ) (position : Nat) :
    (viewPart key position : Part (Scope Config Act Ω) (View (Config key) Act Ω)).Lawful where
  get_set := by
    intro view scope
    change View.mk (setConfig scope.configs key position view.config key position) view.common = view
    rw [setConfig_self]
  set_get := by
    intro scope
    change Scope.mk (setConfig scope.configs key position (scope.configs key position)) scope.common =
      scope
    rw [setConfig_get]
  set_set := by
    intro second first scope
    change Scope.mk _ second.common = Scope.mk _ second.common
    rw [Scope.mk.injEq]
    exact ⟨setConfig_setConfig scope.configs key position _ _, rfl⟩

omit [DecidableEq κ] in
theorem outsidePart_lawful : (outsidePart : Part (Scope Config Act Ω) Ω).Lawful :=
  ⟨fun _ _ => rfl, fun _ => rfl, fun _ _ _ => rfl⟩

omit [DecidableEq κ] in
theorem commonPart_lawful : (commonPart : Part (Scope Config Act Ω) (Common Act Ω)).Lawful :=
  ⟨fun _ _ => rfl, fun _ => rfl, fun _ _ _ => rfl⟩

end Scope

namespace Workflow

variable {κ : Type} [DecidableEq κ] {Config : κ → Type} {Act Ω : Type}

def installations (modules : (key : κ) → Module (Config key) Act Ω) :
    Nat → List (Registration Config) → Scope Config Act Ω →
      List (Installed (Hook (Scope Config Act Ω) Act))
  | _, [], _ => []
  | position, registration :: rest, scope =>
      let part := Scope.viewPart registration.key position
      let result := (modules registration.key).setup (part.get scope)
      result.1.map (fun hook => ⟨position, hook.on part⟩) ++
        installations modules (position + 1) rest (part.set result.2 scope)

private theorem stage_installFrom (modules : (key : κ) → Module (Config key) Act Ω) (position : Nat)
    (registrations : List (Registration Config)) (building : Building Config Act Ω)
    (stage : Stage) :
    (installFrom modules position registrations building).hooks.stage stage =
      building.hooks.stage stage ++
        (installations modules position registrations building.scope).filter
          (·.work.stage = stage) := by
  induction registrations generalizing position building with
  | nil => simp [installFrom, installations]
  | cons registration rest ih =>
      rw [installFrom, ih]
      simp [installAt, installations, HookTable.stage_installAll, List.map_map, Function.comp_def]

theorem stage_build (modules : (key : κ) → Module (Config key) Act Ω) (settings : Settings Config)
    (id : InstanceId) (transport : Request → Proc Ω Response)
    (adapter? : Act → Option (Request → Proc (Common Act Ω) Request)) (outside : Ω)
    (stage : Stage) :
    (build modules settings id transport adapter? outside).1.hooks.stage stage =
      (installations modules 0 (Registry.ordered settings.registrations)
        ⟨configsOf modules (Registry.ordered settings.registrations), ⟨∅, outside⟩⟩).filter
          (·.work.stage = stage) := by
  unfold build
  rw [stage_installFrom, HookTable.stage_empty, List.nil_append]

/-- Every hook is one that the setup of a registration yields from the configuration it
was registered with, and sees what that does. -/
theorem mem_installations {modules : (key : κ) → Module (Config key) Act Ω} {first : Nat}
    {registrations : List (Registration Config)} {scope : Scope Config Act Ω}
    {installed : Installed (Hook (Scope Config Act Ω) Act)}
    (member : installed ∈ installations modules first registrations scope) :
    ∃ (index : Nat) (registration : Registration Config)
      (view : View (Config registration.key) Act Ω)
      (hook : Hook (View (Config registration.key) Act Ω) Act),
      registrations[index]? = some registration ∧
      installed.owner = first + index ∧
      view.config = scope.configs registration.key (first + index) ∧
      hook ∈ ((modules registration.key).setup view).1 ∧
      installed.work = hook.on (Scope.viewPart registration.key installed.owner) := by
  induction registrations generalizing first scope with
  | nil => cases member
  | cons registration rest ih =>
      rcases List.mem_append.mp member with here | there
      · obtain ⟨hook, yielded, rfl⟩ := List.mem_map.mp here
        exact ⟨0, registration, _, hook, rfl, rfl, rfl, yielded, rfl⟩
      · obtain ⟨index, other, view, hook, found, placed, configured, yielded, same⟩ := ih there
        have place : first + 1 + index = first + (index + 1) := by omega
        refine ⟨index + 1, other, view, hook, found, ?_, ?_, yielded, same⟩
        · rw [placed, place]
        · rw [configured, place]
          have apart : first + (index + 1) ≠ first := by omega
          exact Scope.setConfig_of_ne scope.configs _ _ _ apart

theorem stage_on {τ σ Act : Type} (part : Part τ σ) (hook : Hook σ Act) :
    (hook.on part).stage = hook.stage := by
  cases hook <;> rfl

/-- The hooks of one registration are those that its setup yields, once each. -/
theorem owned_installations (modules : (key : κ) → Module (Config key) Act Ω) {index : Nat}
    {registrations : List (Registration Config)} {registration : Registration Config}
    (first : Nat) (scope : Scope Config Act Ω)
    (registered : registrations[index]? = some registration) :
    ∃ view, (installations modules first registrations scope).filter
        (·.owner = first + index) =
      ((modules registration.key).setup view).1.map fun hook =>
        ⟨first + index, hook.on (Scope.viewPart registration.key (first + index))⟩ := by
  induction registrations generalizing first index scope with
  | nil => cases registered
  | cons other rest ih =>
      cases index with
      | zero =>
          cases registered
          refine ⟨(Scope.viewPart registration.key first).get scope, ?_⟩
          rw [installations, List.filter_append, List.filter_eq_self.mpr, List.filter_eq_nil_iff.mpr,
            List.append_nil]
          · rfl
          · intro installed member
            obtain ⟨index, _, _, _, _, placed, _⟩ := mem_installations member
            simp only [decide_eq_true_eq]
            omega
          · intro installed member
            obtain ⟨hook, _, rfl⟩ := List.mem_map.mp member
            simp
      | succ index =>
          obtain ⟨view, same⟩ := ih (first + 1)
            ((Scope.viewPart other.key first).set
              ((modules other.key).setup ((Scope.viewPart other.key first).get scope)).2 scope)
            registered
          have place : first + 1 + index = first + (index + 1) := by omega
          rw [place] at same
          refine ⟨view, ?_⟩
          rw [installations, List.filter_append, List.filter_eq_nil_iff.mpr, List.nil_append]
          · exact same
          · intro installed member
            obtain ⟨hook, _, rfl⟩ := List.mem_map.mp member
            simp only [decide_eq_true_eq]
            omega

private theorem pairwise_installations (modules : (key : κ) → Module (Config key) Act Ω)
    (first : Nat)
    (registrations : List (Registration Config)) (scope : Scope Config Act Ω) :
    (installations modules first registrations scope).Pairwise
      fun earlier later => earlier.owner ≤ later.owner := by
  induction registrations generalizing first scope with
  | nil => exact List.Pairwise.nil
  | cons registration rest ih =>
      refine List.pairwise_append.mpr ⟨?_, ih _ _, ?_⟩
      · rw [List.pairwise_map]
        exact List.pairwise_of_forall fun _ _ => Nat.le_refl first
      · intro earlier inFirst later inRest
        obtain ⟨hook, _, rfl⟩ := List.mem_map.mp inFirst
        obtain ⟨index, _, _, _, _, placed, _⟩ := mem_installations inRest
        change first ≤ later.owner
        omega

/-- The hooks at every stage stand in the order of the registrations. -/
theorem pairwise_stage_build (modules : (key : κ) → Module (Config key) Act Ω)
    (settings : Settings Config) (id : InstanceId) (transport : Request → Proc Ω Response)
    (adapter? : Act → Option (Request → Proc (Common Act Ω) Request)) (outside : Ω)
    (stage : Stage) :
    ((build modules settings id transport adapter? outside).1.hooks.stage stage).Pairwise
      fun earlier later => earlier.owner ≤ later.owner := by
  rw [stage_build]
  exact (pairwise_installations modules 0 _ _).filter _

end Workflow

end GuidedLogin
