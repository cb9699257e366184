/-
Workflows and the registries that they are built from. Building runs the setup of every
registration once, in the order that the registry reports. Each setup is given the
configuration of its registration, and what all hooks see as the one before it left that;
the hooks of a stage are those that the setups install for it, one setup after another
(`Blueprint.Assembled`).
-/
import GuidedLogin.Proofs.Blueprint
import GuidedLogin.Proofs.StableOrder

namespace GuidedLogin

variable {κ : Type} {Config : κ → Type} {Act Ω : Type}

/-- A setup that has been run: for which registration, what it was given, the hooks that it
installed, in their order, and what it left. -/
structure SetupRun (Config : κ → Type) (Act Ω : Type) where
  registration : Registration Config
  given : View (Config registration.key) Act Ω
  hooks : List (Hook (View (Config registration.key) Act Ω) Act)
  left : View (Config registration.key) Act Ω

def SetupRun.installed [DecidableEq κ] (run : SetupRun Config Act Ω) (position : Nat) (stage : Stage) :
    List (Installed (Hook (Scope Config Act Ω) Act)) :=
  (run.hooks.filter (·.stage = stage)).map fun hook =>
    ⟨position, hook.on (Scope.viewPart run.registration.key position)⟩

inductive Relayed : Common Act Ω → List (SetupRun Config Act Ω) → Common Act Ω → Prop where
  | done (common : Common Act Ω) : Relayed common [] common
  | run (run : SetupRun Config Act Ω) {rest : List (SetupRun Config Act Ω)} {last : Common Act Ω}
      (onward : Relayed run.left.common rest last) : Relayed run.given.common (run :: rest) last

/-- What a setup was given and what came of it is told by its registration and by what all
hooks saw before it. -/
theorem SetupRun.eq_of_ran (modules : (key : κ) → Module (Config key) Act Ω)
    {run other : SetupRun Config Act Ω}
    (configured : run.given.config = run.registration.config)
    (otherConfigured : other.given.config = other.registration.config)
    (ran : (modules run.registration.key).setup run.given = (run.hooks, run.left))
    (otherRan : (modules other.registration.key).setup other.given = (other.hooks, other.left))
    (registered : run.registration = other.registration)
    (common : run.given.common = other.given.common) : run = other := by
  obtain ⟨registration, ⟨config, shared⟩, hooks, left⟩ := run
  obtain ⟨another, ⟨otherConfig, otherShared⟩, otherHooks, otherLeft⟩ := other
  subst registered
  change shared = otherShared at common
  change config = registration.config at configured
  change otherConfig = registration.config at otherConfigured
  subst common configured otherConfigured
  cases ran.symm.trans otherRan
  rfl

/-- There is one way only to run the setups of registrations in their order. -/
theorem Relayed.unique (modules : (key : κ) → Module (Config key) Act Ω)
    {first last otherLast : Common Act Ω} {runs others : List (SetupRun Config Act Ω)}
    (relayed : Relayed first runs last) (again : Relayed first others otherLast)
    (registered : runs.map SetupRun.registration = others.map SetupRun.registration)
    (configured : ∀ run, run ∈ runs ∨ run ∈ others → run.given.config = run.registration.config)
    (ran : ∀ run, run ∈ runs ∨ run ∈ others →
      (modules run.registration.key).setup run.given = (run.hooks, run.left)) : runs = others := by
  induction relayed generalizing others with
  | done common => exact (List.map_eq_nil_iff.mp registered.symm).symm
  | @run run rest last onward ih =>
      generalize given : run.given.common = start at again
      cases again with
      | done => cases registered
      | @run other otherRest otherLast otherOnward =>
          obtain ⟨here, later⟩ := List.cons.inj registered
          have same : run = other := SetupRun.eq_of_ran modules
            (configured run (Or.inl List.mem_cons_self))
            (configured other (Or.inr List.mem_cons_self))
            (ran run (Or.inl List.mem_cons_self)) (ran other (Or.inr List.mem_cons_self)) here given
          subst same
          rw [ih otherOnward later]
          · intro past member
            exact configured past (member.imp (List.mem_cons_of_mem run) (List.mem_cons_of_mem run))
          · intro past member
            exact ran past (member.imp (List.mem_cons_of_mem run) (List.mem_cons_of_mem run))

namespace Workflow

variable [DecidableEq κ]

def setupRuns (modules : (key : κ) → Module (Config key) Act Ω) :
    Nat → List (Registration Config) → Scope Config Act Ω → List (SetupRun Config Act Ω)
  | _, [], _ => []
  | position, registration :: rest, scope =>
      let part := Scope.viewPart registration.key position
      let result := (modules registration.key).setup (part.get scope)
      ⟨registration, part.get scope, result.1, result.2⟩ ::
        setupRuns modules (position + 1) rest (part.set result.2 scope)

variable (modules : (key : κ) → Module (Config key) Act Ω)

private theorem registration_setupRuns (first : Nat) (registrations : List (Registration Config))
    (scope : Scope Config Act Ω) :
    (setupRuns modules first registrations scope).map SetupRun.registration = registrations := by
  induction registrations generalizing first scope with
  | nil => rfl
  | cons registration rest ih => rw [setupRuns, List.map_cons, ih]

private theorem setup_of_mem_setupRuns {first : Nat} {registrations : List (Registration Config)}
    {scope : Scope Config Act Ω} {run : SetupRun Config Act Ω}
    (member : run ∈ setupRuns modules first registrations scope) :
    (modules run.registration.key).setup run.given = (run.hooks, run.left) := by
  induction registrations generalizing first scope with
  | nil => cases member
  | cons registration rest ih =>
      rcases List.mem_cons.mp member with rfl | later
      · rfl
      · exact ih later

/-- Every setup is given the configuration at its position, as it was at first: none of the
setups before it has one there. -/
theorem config_of_mem_setupRuns {first : Nat} {registrations : List (Registration Config)}
    {scope : Scope Config Act Ω}
    (configured : ∀ (index : Nat) (registration : Registration Config),
      registrations[index]? = some registration →
        scope.configs registration.key (first + index) = registration.config)
    {run : SetupRun Config Act Ω} (member : run ∈ setupRuns modules first registrations scope) :
    run.given.config = run.registration.config := by
  induction registrations generalizing first scope with
  | nil => cases member
  | cons registration rest ih =>
      rcases List.mem_cons.mp member with rfl | later
      · exact configured 0 registration rfl
      · refine ih ?_ later
        intro index other found
        have place : first + 1 + index = first + (index + 1) := by omega
        have apart : first + (index + 1) ≠ first := by omega
        rw [place]
        exact (Scope.setConfig_of_ne scope.configs _ _ _ apart).trans
          (configured (index + 1) other found)

private theorem relayed_setupRuns (first : Nat) (registrations : List (Registration Config))
    (building : Building Config Act Ω) :
    Relayed building.scope.common (setupRuns modules first registrations building.scope)
      (installFrom modules first registrations building).scope.common := by
  induction registrations generalizing first building with
  | nil => exact .done _
  | cons registration rest ih =>
      let given := (Scope.viewPart registration.key first).get building.scope
      let result := (modules registration.key).setup given
      exact .run ⟨registration, given, result.1, result.2⟩
        (ih (first + 1) (installAt modules first registration.key building))

private theorem configs_installFrom_of_lt {first index : Nat} (before : index < first)
    (registrations : List (Registration Config)) (building : Building Config Act Ω) (key : κ) :
    (installFrom modules first registrations building).scope.configs key index =
      building.scope.configs key index := by
  induction registrations generalizing first building with
  | nil => rfl
  | cons registration rest ih =>
      rw [installFrom, ih (Nat.lt_succ_of_lt before)]
      exact Scope.setConfig_of_ne building.scope.configs _ _ _ (Nat.ne_of_lt before)

private theorem configs_installFrom (first : Nat) (registrations : List (Registration Config))
    (building : Building Config Act Ω) {index : Nat} {run : SetupRun Config Act Ω}
    (found : (setupRuns modules first registrations building.scope)[index]? = some run) :
    (installFrom modules first registrations building).scope.configs run.registration.key
      (first + index) = run.left.config := by
  induction registrations generalizing first building index with
  | nil => cases found
  | cons registration rest ih =>
      cases index with
      | zero =>
          cases found
          rw [installFrom]
          exact (configs_installFrom_of_lt modules (Nat.lt_add_one first) rest _ _).trans
            (Scope.setConfig_self building.scope.configs _ _ _)
      | succ index =>
          have place : first + (index + 1) = first + 1 + index := by omega
          rw [installFrom, place]
          exact ih (first + 1) (installAt modules first registration.key building) found

private theorem installations_eq_setupRuns (first : Nat)
    (registrations : List (Registration Config))
    (scope : Scope Config Act Ω) (stage : Stage) :
    (installations modules first registrations scope).filter (·.work.stage = stage) =
      ((setupRuns modules first registrations scope).zipIdx first).flatMap fun numbered =>
        numbered.1.installed numbered.2 stage := by
  induction registrations generalizing first scope with
  | nil => rfl
  | cons registration rest ih =>
      rw [installations, setupRuns, List.zipIdx_cons, List.flatMap_cons, List.filter_append, ih,
        List.filter_map]
      congr 1
      unfold SetupRun.installed
      congr 1
      apply List.filter_congr
      intro hook _
      simp [stage_on]

end Workflow

namespace Blueprint

variable [DecidableEq κ]

structure Assembled (plan : Blueprint Config Act Ω) (runs : List (SetupRun Config Act Ω)) :
    Prop where
  ordered : SortedBy Registration.priority (runs.map SetupRun.registration)
    plan.settings.registrations
  reported : plan.settings.infos = runs.map fun run => run.registration.info
  modules : plan.workflow.modules = plan.settings.infos
  configured : ∀ run ∈ runs, run.given.config = run.registration.config
  ran : ∀ run ∈ runs,
    (plan.modules run.registration.key).setup run.given = (run.hooks, run.left)
  relayed : Relayed ⟨∅, plan.outside⟩ runs plan.engine.inner.common
  kept : ∀ (position : Nat) (run : SetupRun Config Act Ω), runs[position]? = some run →
    plan.engine.inner.configs run.registration.key position = run.left.config
  hooks : ∀ stage, plan.workflow.hooks.stage stage =
    runs.zipIdx.flatMap fun numbered => numbered.1.installed numbered.2 stage

def start (plan : Blueprint Config Act Ω) : Scope Config Act Ω :=
  ⟨Workflow.configsOf plan.modules plan.registrations, ⟨∅, plan.outside⟩⟩

/-- Building runs the setup of every registration once, in the order that the registry
reports, and installs what the setups yield for every stage in that order. -/
theorem existsUnique_assembled (plan : Blueprint Config Act Ω) : ∃! runs, plan.Assembled runs := by
  have sorted : SortedBy Registration.priority plan.registrations plan.settings.registrations := by
    unfold registrations
    rw [Registry.ordered_eq_insertionSort]
    exact sortedBy_insertionSort Registration.priority plan.settings.registrations
  have registered := Workflow.registration_setupRuns plan.modules 0 plan.registrations plan.start
  refine ⟨Workflow.setupRuns plan.modules 0 plan.registrations plan.start, ?_, ?_⟩
  · constructor
    · rw [registered]
      exact sorted
    · have infos := congrArg (List.map Registration.info) registered
      rw [List.map_map] at infos
      exact infos.symm
    · rfl
    · intro run member
      refine Workflow.config_of_mem_setupRuns plan.modules ?_ member
      intro index registration found
      rw [Nat.zero_add]
      exact configsOf_registered found
    · intro run member
      exact Workflow.setup_of_mem_setupRuns plan.modules member
    · exact Workflow.relayed_setupRuns plan.modules 0 plan.registrations ⟨.empty, plan.start⟩
    · intro position run found
      have left := Workflow.configs_installFrom plan.modules 0 plan.registrations
        ⟨.empty, plan.start⟩ found
      rwa [Nat.zero_add] at left
    · intro stage
      exact (Workflow.stage_build plan.modules plan.settings plan.id plan.transport plan.adapter?
        plan.outside stage).trans (Workflow.installations_eq_setupRuns plan.modules 0 _ _ stage)
  · intro others assembled
    refine assembled.relayed.unique plan.modules
      (Workflow.relayed_setupRuns plan.modules 0 plan.registrations ⟨.empty, plan.start⟩) ?_ ?_ ?_
    · exact (assembled.ordered.unique sorted).trans registered.symm
    · rintro run (member | member)
      · exact assembled.configured run member
      · refine Workflow.config_of_mem_setupRuns plan.modules ?_ member
        intro index registration found
        rw [Nat.zero_add]
        exact configsOf_registered found
    · rintro run (member | member)
      · exact assembled.ran run member
      · exact Workflow.setup_of_mem_setupRuns plan.modules member

end Blueprint

end GuidedLogin
