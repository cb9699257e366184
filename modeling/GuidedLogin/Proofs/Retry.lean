/-
What an error can be retried from, over whole courses. The step that is kept is a fold
over the calls made (`retryFrom`), so an error is retried from the last step that a turn
returned, unless a flow has started or succeeded since.
-/
import GuidedLogin.Proofs.Agreement
import GuidedLogin.Proofs.StepTurns

namespace GuidedLogin

variable {ι : Type} {Own : ι → Type} {Act Ω : Type} [DecidableEq ι]

def Event.step? : Event Act → Option (ContinueNode Act)
  | .turn _ _ node => node.continuation?
  | .signOff _ _ => none

def Event.succeeds : Event Act → Bool
  | .turn _ _ node => node.success?.isSome
  | .signOff _ _ => false

namespace Blueprint

variable {plan : Blueprint (CatalogKey.Config Own Act Ω) Act Ω}
variable {own : (id : ι) → Module (Own id) Act Ω} {safe : (id : ι) → Own id → Prop}
variable {pending now : Option (ContinueNode Act)} {opening : Opening Act}
variable {events earlier later : List (Event Act)} {step : ContinueNode Act}

/-- What happens between two calls leaves configurations and the last step alone. -/
def StepAside (before after : Scope (CatalogKey.Config Own Act Ω) Act Ω) : Prop :=
  after.configs = before.configs ∧
    after.common.shared lastContinueKey = before.common.shared lastContinueKey

/-- A call that neither starts a flow with the module that makes nodes of JSON nor
brings one to its success. -/
def GoesOn (plan : Blueprint (CatalogKey.Config Own Act Ω) Act Ω) (event : Event Act) : Prop :=
  match event with
  | .turn _ made _ => made.any plan.restarts = false ∧ event.succeeds = false
  | .signOff _ _ => True

def retryFrom (plan : Blueprint (CatalogKey.Config Own Act Ω) Act Ω)
    (last : Option (ContinueNode Act)) : Event Act → Option (ContinueNode Act)
  | .turn _ made node =>
      match node with
      | .continuation step => some step
      | .success _ => none
      | .error _ => plan.remembered last made
      | .failure _ => plan.remembered last made
  | .signOff _ _ => last

theorem remembered_map (change : ContinueNode Act → ContinueNode Act)
    (made : List (Invocation Act)) :
    (plan.remembered pending made).map change = plan.remembered (pending.map change) made := by
  unfold remembered
  split <;> rfl

theorem remembered_eq_some_iff {made : List (Invocation Act)} :
    plan.remembered pending made = some step ↔
      made.any plan.restarts = false ∧ pending = some step := by
  unfold remembered
  cases made.any plan.restarts <;> simp

private theorem Leaves.retryFrom (opening : Opening Act) {made : List (Invocation Act)}
    {node : Node Act}
    (leaves : plan.Leaves pending made node now) :
    now.map (·.attach plan.id) =
      plan.retryFrom (pending.map (·.attach plan.id)) (.turn opening made node) := by
  cases node with
  | continuation step => exact leaves
  | success success =>
      cases leaves
      rfl
  | error error =>
      rw [leaves.1]
      exact remembered_map _ _
  | failure cause =>
      cases leaves
      exact remembered_map _ _

/-- The step that is kept is the one to retry from by the calls made. -/
theorem JsonAlone.keeping_of_course (alone : plan.JsonAlone own safe)
    {last : Engine (Scope (CatalogKey.Config Own Act Ω) Act Ω) Act}
    (course : Course plan.workflow StepAside plan.engine events last) :
    ∃ now, plan.Keeping safe now last.inner ∧
      now.map (·.attach plan.id) = events.foldl plan.retryFrom none := by
  induction course with
  | begin =>
      refine ⟨none, alone.stepAlone.undisturbed.built ?_, rfl⟩
      intro registration member
      exact alone.within registration (mem_settings member)
  | @turn _ _ _ opening _ _ course ran traced ih =>
      obtain ⟨pending, keeping, same⟩ := ih
      obtain ⟨rfl, state, _, outcome, rfl, decided⟩ := Course.made_of_turn ran traced
      obtain ⟨now, kept, leaves⟩ := alone.leaves_logOf keeping decided
      refine ⟨now, ?_, ?_⟩
      · rw [state]
        exact kept
      · rw [List.foldl_append, ← same]
        exact leaves.retryFrom opening
  | signOff course ran traced ih =>
      obtain ⟨pending, keeping, same⟩ := ih
      obtain ⟨_, state, _⟩ := Course.made_of_signOff ran traced
      refine ⟨pending, ?_, ?_⟩
      · rw [state]
        exact alone.keeping_signOff keeping
      · rw [List.foldl_append, ← same]
        rfl
  | drift course drifted ih =>
      obtain ⟨pending, keeping, same⟩ := ih
      refine ⟨pending, ⟨?_, ?_⟩, same⟩
      · rw [drifted.1]
        exact keeping.1
      · exact drifted.2.trans keeping.2

/-! ### The fold in terms of the calls -/

theorem retryFrom_of_step {event : Event Act} (returned : event.step? = some step) :
    plan.retryFrom pending event = some step := by
  cases event with
  | turn opening made node =>
      cases node <;> cases returned
      rfl
  | signOff made outcome => cases returned

theorem retryFrom_of_goesOn {event : Event Act} (goesOn : plan.GoesOn event)
    (unreturned : event.step? = none) : plan.retryFrom pending event = pending := by
  cases event with
  | turn opening made node =>
      obtain ⟨unrestarted, unfinished⟩ := goesOn
      cases node with
      | continuation step => cases unreturned
      | success success => cases unfinished
      | error error => exact if_neg (ne_true_of_eq_false unrestarted)
      | failure cause => exact if_neg (ne_true_of_eq_false unrestarted)
  | signOff made outcome => rfl

private theorem goesOn_of_retryFrom {event : Event Act}
    (recalled : plan.retryFrom pending event = some step)
    (unreturned : event.step? = none) : plan.GoesOn event ∧ pending = some step := by
  cases event with
  | turn opening made node =>
      cases node with
      | continuation step => cases unreturned
      | success success => cases recalled
      | error error =>
          obtain ⟨unrestarted, same⟩ := remembered_eq_some_iff.mp recalled
          exact ⟨⟨unrestarted, rfl⟩, same⟩
      | failure cause =>
          obtain ⟨unrestarted, same⟩ := remembered_eq_some_iff.mp recalled
          exact ⟨⟨unrestarted, rfl⟩, same⟩
  | signOff made outcome => exact ⟨trivial, recalled⟩

/-- The last step that a call returned, with no start and no success since. -/
theorem foldl_retryFrom_eq_some_iff :
    events.foldl plan.retryFrom none = some step ↔
      ∃ before event after, events = before ++ event :: after ∧ event.step? = some step ∧
        ∀ other ∈ after, plan.GoesOn other ∧ other.step? = none := by
  induction events using List.reverseRecOn with
  | nil => simp
  | append_singleton front event ih =>
      rw [List.foldl_append]
      constructor
      · intro recalled
        cases returned : event.step? with
        | some other =>
            cases (retryFrom_of_step returned).symm.trans recalled
            exact ⟨front, event, [], rfl, returned, by simp⟩
        | none =>
            obtain ⟨goesOn, recalled⟩ := goesOn_of_retryFrom recalled returned
            obtain ⟨before, first, after, rfl, found, passing⟩ := ih.mp recalled
            refine ⟨before, first, after ++ [event], by simp, found, ?_⟩
            intro other member
            rcases List.mem_append.mp member with inAfter | last
            · exact passing other inAfter
            · rw [List.mem_singleton.mp last]
              exact ⟨goesOn, returned⟩
      · rintro ⟨before, first, after, same, found, passing⟩
        rcases append_singleton_eq same with ⟨rfl, rfl, rfl⟩ | ⟨between, rfl, within⟩
        · exact retryFrom_of_step found
        · obtain ⟨goesOn, unreturned⟩ := passing event (by simp)
          refine (retryFrom_of_goesOn goesOn unreturned).trans (ih.mpr ?_)
          exact ⟨before, first, between, within, found,
            fun other member => passing other (by simp [member])⟩

private theorem foldl_retryFrom_isSome (after : List (Event Act))
    (goesOn : ∀ event ∈ after, plan.GoesOn event) :
    (after.foldl plan.retryFrom (some step)).isSome := by
  induction after generalizing step with
  | nil => rfl
  | cons event rest ih =>
      have onward : ∀ other ∈ rest, plan.GoesOn other :=
        fun other member => goesOn other (List.mem_cons_of_mem event member)
      rw [List.foldl_cons]
      cases returned : event.step? with
      | some other =>
          rw [retryFrom_of_step returned]
          exact ih onward
      | none =>
          rw [retryFrom_of_goesOn (goesOn event List.mem_cons_self) returned]
          exact ih onward

private theorem exists_step_of_isSome (recalled : (events.foldl plan.retryFrom none).isSome) :
    ∃ before event after, events = before ++ event :: after ∧ event.step?.isSome ∧
      ∀ other ∈ after, plan.GoesOn other := by
  obtain ⟨step, same⟩ := Option.isSome_iff_exists.mp recalled
  obtain ⟨before, event, after, split, returned, passing⟩ := foldl_retryFrom_eq_some_iff.mp same
  exact ⟨before, event, after, split, returned ▸ rfl, fun other member => (passing other member).1⟩

private theorem isSome_of_exists_step (before : List (Event Act)) {after : List (Event Act)}
    {event : Event Act}
    (returned : event.step?.isSome) (goesOn : ∀ other ∈ after, plan.GoesOn other) :
    ((before ++ event :: after).foldl plan.retryFrom none).isSome := by
  obtain ⟨step, found⟩ := Option.isSome_iff_exists.mp returned
  rw [List.foldl_append, List.foldl_cons, retryFrom_of_step found]
  exact foldl_retryFrom_isSome after goesOn

private theorem JsonAlone.retry_eq (alone : plan.JsonAlone own safe)
    {last : Engine (Scope (CatalogKey.Config Own Act Ω) Act Ω) Act} {made : List (Invocation Act)}
    {error : ErrorNode Act} (course : Course plan.workflow StepAside plan.engine events last)
    (split : events = earlier ++ .turn opening made (.error error) :: later) :
    error.retry = plan.remembered (earlier.foldl plan.retryFrom none) made ∧
      ∃ now : Option (ContinueNode Act), error.retry = now.map (·.attach plan.id) := by
  obtain ⟨before, after, course, ran, traced⟩ := course.exists_turn split
  obtain ⟨pending, keeping, same⟩ := alone.keeping_of_course course
  obtain ⟨rfl, _, _, outcome, told, decided⟩ := Course.made_of_turn ran traced
  obtain ⟨now, _, leaves⟩ := alone.leaves_logOf keeping decided
  rw [← told] at leaves
  obtain ⟨kept, linked⟩ := leaves
  refine ⟨?_, now, linked⟩
  rw [linked, kept, remembered_map, same]

/-- In a course of calls, whatever they are answered, an error can be retried just in case
that an earlier turn returned a step and neither this turn nor one since has started a
flow over or brought one to its success. The retry then is the last such step, and going
on from the error is going on from it. -/
theorem JsonAlone.retry_of_error (alone : plan.JsonAlone own safe)
    {last : Engine (Scope (CatalogKey.Config Own Act Ω) Act Ω) Act} {made : List (Invocation Act)}
    {error : ErrorNode Act} (course : Course plan.workflow StepAside plan.engine events last)
    (split : events = earlier ++ .turn opening made (.error error) :: later) :
    (error.retry.isSome ↔ made.any plan.restarts = false ∧
      ∃ before event after, earlier = before ++ event :: after ∧ event.step?.isSome ∧
        ∀ other ∈ after, plan.GoesOn other) ∧
    ∀ retry, error.retry = some retry →
      (∃ before event after, earlier = before ++ event :: after ∧ event.step? = some retry ∧
        ∀ other ∈ after, plan.GoesOn other ∧ other.step? = none) ∧
      (Node.error error).onward = .turn plan.id retry ∧
      (Node.continuation retry).onward = .turn plan.id retry := by
  obtain ⟨same, now, linked⟩ := alone.retry_eq course split
  refine ⟨⟨?_, ?_⟩, ?_⟩
  · intro present
    obtain ⟨retry, found⟩ := Option.isSome_iff_exists.mp present
    obtain ⟨unrestarted, recalled⟩ := remembered_eq_some_iff.mp (same.symm.trans found)
    exact ⟨unrestarted, exists_step_of_isSome (recalled ▸ rfl)⟩
  · rintro ⟨unrestarted, before, event, after, rfl, returned, goesOn⟩
    obtain ⟨step, recalled⟩ :=
      Option.isSome_iff_exists.mp (isSome_of_exists_step before returned goesOn)
    rw [same, remembered_eq_some_iff.mpr ⟨unrestarted, recalled⟩]
    rfl
  · intro retry found
    obtain ⟨_, recalled⟩ := remembered_eq_some_iff.mp (same.symm.trans found)
    obtain ⟨step, _, rfl⟩ := Option.map_eq_some_iff.mp (linked.symm.trans found)
    refine ⟨foldl_retryFrom_eq_some_iff.mp recalled, ?_, rfl⟩
    have onward : (Node.error error).next? = some (step.attach plan.id) := found
    unfold Node.onward
    rw [onward]
    rfl

/-! ### A login that is turned down -/

def refusalBody : JsonObject := NameMap.ofList [("message", .string "no")]

/-- A login that is asked for more at first, and turned down behind that. -/
def turnedDown : Blueprint (CatalogKey.Config NoneAdded Unit Bool) Unit Bool where
  modules := CatalogKey.module fun id => nomatch id
  settings := ⟨"login", [⟨.jsonTransform, .standard, 10, .append⟩], .ofSeconds 30⟩
  id := 7
  transport := fun request => do
    let asked ← Proc.state
    Proc.modify fun _ => true
    if asked then pure (Response.ofJson request 401 (.ofObject refusalBody))
    else pure (Response.ofJson request 200 .emptyObject)
  adapter? := fun _ => none
  outside := false

def moreAsked : ContinueNode Unit := ⟨∅, [], .empty, some 7⟩

def refusal : ErrorNode Unit := ⟨refusalBody, "no", some moreAsked⟩

def askedRun := (turnedDown.workflow.begin (.start .empty)).work.run turnedDown.engine

def refusedRun := (turnedDown.workflow.begin (.next moreAsked)).work.run askedRun.2

private theorem run_asked : askedRun = (.ok (.continuation moreAsked), askedRun.2) := by
  have answer : askedRun.1 = .ok (.continuation moreAsked) :=
    Node.eq_ok_of_agrees (by decide +kernel)
  rw [← answer]

private theorem run_refused : refusedRun = (.ok (.error refusal), refusedRun.2) := by
  have answer : refusedRun.1 = .ok (.error refusal) := Node.eq_ok_of_agrees (by decide +kernel)
  rw [← answer]

private theorem turnedDown_alone :
    turnedDown.JsonAlone (fun id => nomatch id) (fun _ _ => True) where
  catalog := rfl
  within := by
    intro registration member
    cases List.mem_singleton.mp member
    trivial
  bystanders := by
    intro registration member id
    exact nomatch id
  adapters := by
    intro action adapt known
    cases known

theorem retry_of_refusal : ∃ asked refused last,
    Course turnedDown.workflow StepAside turnedDown.engine
      [.turn (.start .empty) asked (.continuation moreAsked),
        .turn (.next moreAsked) refused (.error refusal)] last ∧
    refused.any turnedDown.restarts = false ∧
    (Node.error refusal).onward = .turn 7 moreAsked := by
  have course : Course turnedDown.workflow StepAside turnedDown.engine _ refusedRun.2 :=
    (Course.begin.answered run_asked).answered run_refused
  have told := turnedDown_alone.retry_of_error course rfl
  exact ⟨_, _, _, course, (told.1.mp rfl).1, (told.2 moreAsked rfl).2.1⟩

end Blueprint

end GuidedLogin
