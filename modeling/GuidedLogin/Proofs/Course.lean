/-
Courses of a workflow: calls one after another, from the state that it starts from on.
Between two calls what surrounds the workflow may change.
-/
import GuidedLogin.Proofs.Calls
import GuidedLogin.Proofs.Record

namespace GuidedLogin

variable {κ S Act : Type}

inductive Event (Act : Type) where
  | turn (opening : Opening Act) (made : List (Invocation Act)) (node : Node Act)
  | signOff (made : List (Invocation Act)) (outcome : Except Error Unit)

inductive Course (workflow : Workflow κ S Act) (drift : S → S → Prop) (first : Engine S Act) :
    List (Event Act) → Engine S Act → Prop where
  | begin : Course workflow drift first [] first
  | turn {events : List (Event Act)} {before after : Engine S Act} {opening : Opening Act}
      {made : List (Invocation Act)} {node : Node Act}
      (course : Course workflow drift first events before)
      (ran : (workflow.begin opening).work.run before = (.ok node, after))
      (traced : after.trace = before.trace ++ made) :
      Course workflow drift first (events ++ [.turn opening made node]) after
  | signOff {events : List (Event Act)} {before after : Engine S Act}
      {made : List (Invocation Act)} {outcome : Except Error Unit}
      (course : Course workflow drift first events before)
      (ran : workflow.signOff.work.run before = (.ok outcome, after))
      (traced : after.trace = before.trace ++ made) :
      Course workflow drift first (events ++ [.signOff made outcome]) after
  | drift {events : List (Event Act)} {before : Engine S Act} {state : S}
      (course : Course workflow drift first events before) (drifted : drift before.inner state) :
      Course workflow drift first events { before with inner := state }

namespace Course

variable {workflow : Workflow κ S Act} {drift : S → S → Prop} {first last : Engine S Act}

theorem exists_turn {events earlier later : List (Event Act)} {opening : Opening Act}
    {made : List (Invocation Act)} {node : Node Act}
    (course : Course workflow drift first events last)
    (same : events = earlier ++ .turn opening made node :: later) :
    ∃ before after, Course workflow drift first earlier before ∧
      (workflow.begin opening).work.run before = (.ok node, after) ∧
      after.trace = before.trace ++ made := by
  induction course generalizing later with
  | begin => simp at same
  | turn course ran traced ih =>
      rcases append_singleton_eq same with ⟨_, rfl, final⟩ | ⟨between, _, split⟩
      · cases final
        exact ⟨_, _, course, ran, traced⟩
      · exact ih split
  | signOff course ran traced ih =>
      rcases append_singleton_eq same with ⟨_, _, final⟩ | ⟨between, _, split⟩
      · cases final
      · exact ih split
  | drift course drifted ih => exact ih same

/-- What the log of a turn tells is what the turn added to the trace. -/
theorem made_of_turn {before after : Engine S Act} {opening : Opening Act} {node : Node Act}
    {made : List (Invocation Act)}
    (ran : (workflow.begin opening).work.run before = (.ok node, after))
    (traced : after.trace = before.trace ++ made) :
    made = (workflow.logOf (.turn opening) before).made ∧
      after.inner = (workflow.logOf (.turn opening) before).state ∧
      after.initialized = workflow.opened (.turn opening) before ∧
      ∃ outcome, node = workflow.conclude outcome ∧
        Workflow.Decides opening (workflow.logOf (.turn opening) before) outcome := by
  obtain ⟨outcome, told, decided⟩ := Workflow.run_turn workflow opening before
  rw [told] at ran
  cases ran
  exact ⟨(List.append_cancel_left traced).symm, rfl, rfl, outcome, rfl, decided⟩

/-- Whatever a turn comes to, it leads a course on. -/
theorem answered {events : List (Event Act)} {before after : Engine S Act} {opening : Opening Act}
    {node : Node Act} (course : Course workflow drift first events before)
    (ran : (workflow.begin opening).work.run before = (.ok node, after)) :
    Course workflow drift first
      (events ++ [.turn opening (workflow.logOf (.turn opening) before).made node]) after := by
  apply course.turn ran
  obtain ⟨outcome, told, _⟩ := Workflow.run_turn workflow opening before
  rw [told] at ran
  cases ran
  rfl

theorem made_of_signOff {before after : Engine S Act} {outcome : Except Error Unit}
    {made : List (Invocation Act)}
    (ran : workflow.signOff.work.run before = (.ok outcome, after))
    (traced : after.trace = before.trace ++ made) :
    made = (workflow.logOf .signOff before).made ∧
      after.inner = (workflow.logOf .signOff before).state ∧
      after.initialized = workflow.opened .signOff before := by
  rw [Workflow.run_signOff] at ran
  cases ran
  exact ⟨(List.append_cancel_left traced).symm, rfl, rfl⟩

end Course

end GuidedLogin
