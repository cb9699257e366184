/-
Work that spares something. A module spares a part of what all hooks see if neither its
setup nor its hooks change it, as long as its configuration is one that it keeps within
(`Module.Spares`). Work on other parts of a state spares what is not there.
-/
import GuidedLogin.Module

namespace GuidedLogin

variable {σ τ α β C Act Ω : Type}

namespace Proc

/-- Work that leaves a property of the state in place, also where it fails. -/
def Maintains (holds : σ → Prop) (work : Proc σ α) : Prop :=
  ∀ state, holds state → holds (work.run state).2

variable {holds : σ → Prop}

theorem maintains_done (value : α) : (done value : Proc σ α).Maintains holds := fun _ held => held

theorem maintains_fail (fault : Fault) : (fail fault : Proc σ α).Maintains holds :=
  fun _ held => held

theorem maintains_read {next : σ → Proc σ α}
    (rest : ∀ state, holds state → (next state).Maintains holds) : (read next).Maintains holds := by
  intro state held
  exact rest state held state held

theorem maintains_state : (state : Proc σ σ).Maintains holds := fun _ held => held

theorem maintains_bind {work : Proc σ α} {next : α → Proc σ β} (first : work.Maintains holds)
    (rest : ∀ value, (next value).Maintains holds) : (work.bind next).Maintains holds := by
  intro state held
  have between := first state held
  rw [run_bind]
  rcases ended : work.run state with ⟨fault | value, after⟩
  · rw [ended] at between
    exact between
  · rw [ended] at between
    exact rest value after between

theorem run_bind_done (work : Proc σ α) (wrap : α → β) (state : σ) :
    (work.bind fun value => .done (wrap value)).run state =
      ((work.run state).1.map wrap, (work.run state).2) := by
  rw [run_bind]
  rcases work.run state with ⟨fault | value, after⟩ <;> rfl

theorem maintains_modify {change : σ → σ} (kept : ∀ state, holds state → holds (change state)) :
    (modify change).Maintains holds := kept

theorem run_tryStep (change : σ → Except Error (α × σ)) (state : σ) :
    (tryStep change).run state =
      match change state with
      | .ok (value, after) => (.ok value, after)
      | .error cause => (.error (.error cause), state) := by
  change ((match change state with
    | .ok (value, after) => write after (done value)
    | .error cause => throw cause : Proc σ α).run state) = _
  cases change state <;> rfl

theorem maintains_tryStep {change : σ → Except Error (α × σ)}
    (kept : ∀ state, holds state → ∀ made, change state = .ok made → holds made.2) :
    (tryStep change).Maintains holds := by
  intro state held
  rw [run_tryStep]
  cases changed : change state with
  | ok made => exact kept state held made changed
  | error cause => exact held

theorem maintains_ofExcept (outcome : Except Error α) :
    (ofExcept outcome : Proc σ α).Maintains holds := by
  cases outcome with
  | ok value => exact maintains_done value
  | error cause => exact maintains_fail _

/-- Work on a part of a state only writes that part. -/
theorem maintains_on {part : Part τ σ} {holds : τ → Prop}
    (kept : ∀ value whole, holds whole → holds (part.set value whole)) (work : Proc σ α) :
    (work.on part).Maintains holds := by
  induction work with
  | done value => exact maintains_done value
  | fail fault => exact maintains_fail fault
  | read rest ih => exact maintains_read fun whole _ => ih (part.get whole)
  | write value rest ih =>
      intro whole held
      exact ih (part.set value whole) (kept value whole held)
  | wait duration rest ih => exact ih

/-- A limit of time only cuts work short, between two of its steps. -/
theorem within_on (part : Part τ σ) (limit : Nat) (work : Proc σ α) :
    Proc.within limit (work.on part) = (Proc.within limit work).on part := by
  induction work generalizing limit with
  | done value => rfl
  | fail fault => rfl
  | read rest ih => exact congrArg Proc.read (funext fun whole => ih (part.get whole) limit)
  | write value rest ih =>
      exact congrArg Proc.read (funext fun whole => congrArg (Proc.write _) (ih limit))
  | wait duration rest ih =>
      rw [on, within, within]
      by_cases soon : duration ≤ limit
      · rw [if_pos soon, if_pos soon, ih, on]
      · rw [if_neg soon, if_neg soon]
        by_cases expired : limit = 0
        · rw [if_pos expired, if_pos expired, on]
        · rw [if_neg expired, if_neg expired, on, on]

end Proc

namespace Hook

def Maintains (holds : σ → Prop) : Hook σ Act → Prop
  | .init work => work.Maintains holds
  | .start work => ∀ request, (work request).Maintains holds
  | .next work => ∀ node request, (work node request).Maintains holds
  | .response work => ∀ response, (work response).Maintains holds
  | .transform work => ∀ response, (work response).Maintains holds
  | .node work => ∀ node, (work node).Maintains holds
  | .success work => ∀ node, (work node).Maintains holds
  | .signOff work => ∀ request, (work request).Maintains holds

end Hook

/-- A configuration within some bounds, and what a probe shows of what all hooks see. -/
def View.Shows (safe : C → Prop) (probe : Common Act Ω → β) (value : β) (view : View C Act Ω) : Prop :=
  safe view.config ∧ probe view.common = value

structure Module.Spares (module : Module C Act Ω) (safe : C → Prop) (probe : Common Act Ω → β) :
    Prop where
  setup : ∀ view value, view.Shows safe probe value →
    (module.setup view).2.Shows safe probe value
  hooks : ∀ view, safe view.config → ∀ hook ∈ (module.setup view).1,
    ∀ value, hook.Maintains (View.Shows safe probe value)

theorem Module.spares_ofHooks {name : String} {fresh : C} {hooks : List (Hook (View C Act Ω) Act)}
    {safe : C → Prop} {probe : Common Act Ω → β}
    (kept : ∀ hook ∈ hooks, ∀ value, hook.Maintains (View.Shows safe probe value)) :
    (Module.ofHooks name fresh hooks).Spares safe probe where
  setup := by
    intro view value shown
    exact shown
  hooks := by
    intro view _ hook member value
    exact kept hook member value

end GuidedLogin
