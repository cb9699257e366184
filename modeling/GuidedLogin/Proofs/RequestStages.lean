/-
Stages whose hooks build the request of a call. Where each hook does without fail what a touch
tells of a sketch of request and state, the whole stage does what the touches tell one after
another (`exists_run_foldStage`, `run_signOffHooks`), so the order of hooks whose
touches commute is of no matter.
-/
import GuidedLogin.Proofs.Installed
import GuidedLogin.Proofs.Simulation

namespace GuidedLogin

variable {κ S Act A ι : Type}

def Visit.stage : Visit Act → Stage
  | .turn (.start _) => .start
  | .turn (.next _) => .next
  | .signOff => .signOff

def Hook.build {σ : Type} : Hook σ Act → Visit Act → Request → Proc σ Request
  | .start work, .turn (.start _), request => work request
  | .next work, .turn (.next step), request => work step request
  | .signOff work, .signOff, request => work request
  | _, _, request => .done request

theorem Hook.build_on {σ τ : Type} (part : Part τ σ) (hook : Hook σ Act) (visit : Visit Act)
    (request : Request) :
    (hook.on part).build visit request = (hook.build visit request).on part := by
  rcases visit with (base | step) | _ <;> cases hook <;> rfl

/-- Work that builds a request without fail, and does what a touch tells of the sketch. -/
def Builds (holds : S → Prop) (sketch : Request → S → A) (touch : A → A)
    (work : Request → Proc S Request) : Prop :=
  ∀ request state, holds state → ∃ built after, (work request).run state = (.ok built, after) ∧
    holds after ∧ sketch built after = touch (sketch request state)

namespace Workflow

def builders (workflow : Workflow κ S Act) (visit : Visit Act) : List (Request → Proc S Request) :=
  (workflow.hooks.stage visit.stage).map fun installed => installed.work.build visit

theorem runStart_eq (workflow : Workflow κ S Act) (base request : Request) :
    workflow.runStart request =
      foldStage Invocation.start 0 (workflow.builders (.turn (.start base))) request := by
  unfold builders Visit.stage HookTable.stage
  rw [List.map_map]
  rfl

theorem runNext_eq (workflow : Workflow κ S Act) (step : ContinueNode Act) (request : Request) :
    workflow.runNext step request =
      foldStage (fun position request => .next position step request) 0
        (workflow.builders (.turn (.next step))) request := by
  unfold runNext works builders Visit.stage HookTable.stage
  rw [List.map_map, List.map_map]
  rfl

theorem works_signOff (workflow : Workflow κ S Act) :
    works workflow.hooks.signOff = workflow.builders .signOff := by
  unfold builders Visit.stage HookTable.stage
  rw [List.map_map]
  rfl

variable {holds : S → Prop} {sketch : Request → S → A} {touch : ι → A → A}
variable {work : ι → Request → Proc S Request} {items : List ι}
variable {given : Nat → Request → Invocation Act}

/-- Hooks that build a request one after another, touch upon touch. -/
theorem exists_run_foldStage (silent : ∀ position request, (given position request).sent? = none)
    (builds : ∀ item ∈ items, Builds holds sketch (touch item) (work item)) (first : Nat)
    (request : Request) (engine : Engine S Act) (held : holds engine.inner) :
    ∃ built after, (foldStage given first (items.map work) request).run engine =
        (.ok built, after) ∧ holds after.inner ∧
      sketch built after.inner =
        items.foldl (fun drawn item => touch item drawn) (sketch request engine.inner) ∧
      after.initialized = engine.initialized ∧ after.sent = engine.sent := by
  induction items generalizing first request engine with
  | nil => exact ⟨request, engine, rfl, held, rfl, rfl, rfl⟩
  | cons item rest ih =>
      obtain ⟨between, state, ran, kept, drawn⟩ :=
        builds item List.mem_cons_self request engine.inner held
      obtain ⟨built, after, onward, last, told, initialized, sent⟩ :=
        ih (fun other member => builds other (List.mem_cons_of_mem item member)) (first + 1)
          between ⟨state, engine.initialized, engine.trace ++ [given first request]⟩ kept
      refine ⟨built, after, ?_, last, ?_, initialized, ?_⟩
      · rw [List.map_cons, foldStage, Proc.run_bind, run_invoke, ran]
        exact onward
      · rw [told, drawn, List.foldl_cons]
      · rw [sent]
        unfold Engine.sent
        simp [silent]

/-- Where no hook of a sign-off fails, they build the request as those of a turn do. -/
theorem run_signOffHooks {works : List (Request → Proc S Request)} {first : Nat}
    {request built : Request} {engine after : Engine S Act} (failure : Option Error)
    (ran : (foldStage Invocation.signOff first works request).run engine = (.ok built, after)) :
    (signOffHooks first works ⟨request, failure⟩).run engine =
      (.ok ⟨built, failure⟩, after) := by
  induction works generalizing first request engine with
  | nil =>
      cases ran
      rfl
  | cons work rest ih =>
      rw [foldStage, Proc.run_bind] at ran
      rw [signOffHooks, Proc.run_bind, Proc.run_attemptError]
      rcases made : (invoke (.signOff first request) (work request)).run engine with
        ⟨fault | next, between⟩
      · rw [made] at ran
        cases ran
      · rw [made] at ran
        exact ih ran

end Workflow

end GuidedLogin
