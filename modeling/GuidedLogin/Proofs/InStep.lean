/-
Works that keep in step. Two works on states of different kinds keep in step if from tied
states they come to one end, or to a wait of one duration and go on in step from there
whatever has become of their states meanwhile, as long as these are tied. Where they halt
their states are tied again, and the first has changed nothing but what it may
(`Proc.InStep.advance`). Every way to put works together keeps that.
-/
import GuidedLogin.Workflow.Turn
import Mathlib.Data.List.Forall2

namespace GuidedLogin

variable {σ τ S T Act α β : Type}

structure Tie (σ τ : Type) where
  related : σ → τ → Prop
  spares : σ → σ → Prop
  refl : ∀ state, spares state state
  trans : ∀ {first second third}, spares first second → spares second third → spares first third

namespace Proc

inductive InStep (tie : Tie σ τ) : σ → Proc σ α → τ → Proc τ α → Prop where
  | done {state : σ} {other : τ} (value : α) (tied : tie.related state other) :
      InStep tie state (.done value) other (.done value)
  | fail {state : σ} {other : τ} (fault : Fault) (tied : tie.related state other) :
      InStep tie state (.fail fault) other (.fail fault)
  | readLeft {state : σ} {other : τ} {next : σ → Proc σ α} {right : Proc τ α}
      (onward : InStep tie state (next state) other right) :
      InStep tie state (.read next) other right
  | readRight {state : σ} {other : τ} {left : Proc σ α} {next : τ → Proc τ α}
      (onward : InStep tie state left other (next other)) :
      InStep tie state left other (.read next)
  | writeLeft {state written : σ} {other : τ} {next : Proc σ α} {right : Proc τ α}
      (spared : tie.spares state written) (onward : InStep tie written next other right) :
      InStep tie state (.write written next) other right
  | writeRight {state : σ} {other written : τ} {left : Proc σ α} {next : Proc τ α}
      (onward : InStep tie state left written next) :
      InStep tie state left other (.write written next)
  | wait {state : σ} {other : τ} {left : Proc σ α} {right : Proc τ α} (duration : Nat)
      (tied : tie.related state other)
      (onward : ∀ state other, tie.related state other → InStep tie state left other right) :
      InStep tie state (.wait duration left) other (.wait duration right)

/-- Works that keep in step from any states that belong together. -/
def Tracks (tie : Tie σ τ) (left : Proc σ α) (right : Proc τ α) : Prop :=
  ∀ state other, tie.related state other → InStep tie state left other right

end Proc

inductive Halt.InStep (tie : Tie σ τ) : Halt σ α → Halt τ α → Prop where
  | done (value : α) : InStep tie (.done value) (.done value)
  | failed (fault : Fault) : InStep tie (.failed fault) (.failed fault)
  | waiting (duration : Nat) {left : Proc σ α} {right : Proc τ α}
      (tracks : left.Tracks tie right) : InStep tie (.waiting duration left) (.waiting duration right)

namespace Proc

variable {tie : Tie σ τ} {state : σ} {other : τ} {left : Proc σ α} {right : Proc τ α}

/-- Where works in step halt: at one place, in tied states. -/
theorem InStep.advance (inStep : InStep tie state left other right) :
    tie.spares state (left.advance state).2 ∧
      tie.related (left.advance state).2 (right.advance other).2 ∧
      Halt.InStep tie (left.advance state).1 (right.advance other).1 := by
  induction inStep with
  | done value tied => exact ⟨tie.refl _, tied, .done value⟩
  | fail fault tied => exact ⟨tie.refl _, tied, .failed fault⟩
  | readLeft _ ih => exact ih
  | readRight _ ih => exact ih
  | writeLeft spared _ ih => exact ⟨tie.trans spared ih.1, ih.2⟩
  | writeRight _ ih => exact ih
  | wait duration tied onward _ => exact ⟨tie.refl _, tied, .waiting duration onward⟩

theorem InStep.bind {next : α → Proc σ β} {further : α → Proc τ β}
    (inStep : InStep tie state left other right)
    (onward : ∀ value, (next value).Tracks tie (further value)) :
    InStep tie state (left.bind next) other (right.bind further) := by
  induction inStep with
  | done value tied => exact onward value _ _ tied
  | fail fault tied => exact .fail fault tied
  | readLeft _ ih => exact .readLeft ih
  | readRight _ ih => exact .readRight ih
  | writeLeft spared _ ih => exact .writeLeft spared ih
  | writeRight _ ih => exact .writeRight ih
  | wait duration tied _ ih => exact .wait duration tied ih

theorem InStep.attempt (inStep : InStep tie state left other right) :
    InStep tie state left.attempt other right.attempt := by
  induction inStep with
  | done value tied => exact .done _ tied
  | fail fault tied => exact .done _ tied
  | readLeft _ ih => exact .readLeft ih
  | readRight _ ih => exact .readRight ih
  | writeLeft spared _ ih => exact .writeLeft spared ih
  | writeRight _ ih => exact .writeRight ih
  | wait duration tied _ ih => exact .wait duration tied ih

theorem InStep.within (inStep : InStep tie state left other right) (limit : Nat) :
    InStep tie state (left.within limit) other (right.within limit) := by
  induction inStep generalizing limit with
  | done value tied => exact .done _ tied
  | fail fault tied => exact .fail fault tied
  | readLeft _ ih => exact .readLeft (ih limit)
  | readRight _ ih => exact .readRight (ih limit)
  | writeLeft spared _ ih => exact .writeLeft spared (ih limit)
  | writeRight _ ih => exact .writeRight (ih limit)
  | wait duration tied _ ih =>
      unfold Proc.within
      split
      · exact .wait duration tied fun state other tied => ih state other tied _
      · split
        · exact .done none tied
        · exact .wait limit tied fun _ _ tied => .done none tied

theorem tracks_done (value : α) : (done value : Proc σ α).Tracks tie (done value) :=
  fun _ _ tied => .done value tied

theorem tracks_fail (fault : Fault) : (fail fault : Proc σ α).Tracks tie (fail fault) :=
  fun _ _ tied => .fail fault tied

theorem tracks_modify {change : σ → σ} {alike : τ → τ}
    (spared : ∀ state, tie.spares state (change state))
    (kept : ∀ state other, tie.related state other → tie.related (change state) (alike other)) :
    (modify change).Tracks tie (modify alike) := by
  intro state other tied
  exact .readLeft (.writeLeft (spared state) (.readRight (.writeRight
    (.done () (kept state other tied)))))

theorem tracks_ofOutcome (outcome : Except Fault α) :
    (ofOutcome outcome : Proc σ α).Tracks tie (ofOutcome outcome) := by
  cases outcome with
  | ok value => exact tracks_done value
  | error fault => exact tracks_fail fault

theorem Tracks.bind {next : α → Proc σ β} {further : α → Proc τ β}
    (tracks : left.Tracks tie right) (onward : ∀ value, (next value).Tracks tie (further value)) :
    (left.bind next).Tracks tie (right.bind further) :=
  fun state other tied => (tracks state other tied).bind onward

theorem Tracks.attempt (tracks : left.Tracks tie right) :
    left.attempt.Tracks tie right.attempt :=
  fun state other tied => (tracks state other tied).attempt

theorem Tracks.attemptError (tracks : left.Tracks tie right) :
    left.attemptError.Tracks tie right.attemptError := by
  refine tracks.attempt.bind ?_
  rintro (⟨cause | payload⟩ | value)
  · exact tracks_done _
  · exact tracks_fail _
  · exact tracks_done _

theorem Tracks.within (tracks : left.Tracks tie right) (limit : Nat) :
    (Proc.within limit left).Tracks tie (Proc.within limit right) :=
  fun state other tied => (tracks state other tied).within limit

/-- One work on a part of either state, where the parts agree. -/
theorem tracks_on {ρ : Type} {part : Part σ ρ} {twin : Part τ ρ}
    (get : ∀ state other, tie.related state other → part.get state = twin.get other)
    (spared : ∀ state other value, tie.related state other → tie.spares state (part.set value state))
    (set : ∀ state other value, tie.related state other →
      tie.related (part.set value state) (twin.set value other))
    (work : Proc ρ α) : (work.on part).Tracks tie (work.on twin) := by
  intro state other tied
  induction work generalizing state other with
  | done value => exact .done value tied
  | fail fault => exact .fail fault tied
  | read next ih =>
      refine .readLeft (.readRight ?_)
      rw [get state other tied]
      exact ih _ state other tied
  | write value next ih =>
      refine .readLeft (.readRight (.writeLeft (spared state other value tied) (.writeRight ?_)))
      exact ih _ _ (set state other value tied)
  | wait duration next ih => exact .wait duration tied ih

end Proc

/-! ### Engines -/

structure Engine.Tied (tie : Tie S T) (engine : Engine S Act) (other : Engine T Act) : Prop where
  inner : tie.related engine.inner other.inner
  initialized : engine.initialized = other.initialized
  trace : engine.trace = other.trace

def Tie.engine (tie : Tie S T) : Tie (Engine S Act) (Engine T Act) where
  related := Engine.Tied tie
  spares before after := tie.spares before.inner after.inner
  refl engine := tie.refl engine.inner
  trans := tie.trans

variable {tie : Tie S T}

theorem Proc.InStep.onEngine {engine : Engine S Act} {other : Engine T Act} {left : Proc S α}
    {right : Proc T α} (inStep : InStep tie engine.inner left other.inner right)
    (initialized : engine.initialized = other.initialized) (trace : engine.trace = other.trace) :
    InStep tie.engine engine (left.on Engine.innerPart) other (right.on Engine.innerPart) := by
  generalize here : engine.inner = state at inStep
  generalize there : other.inner = twin at inStep
  induction inStep generalizing engine other with
  | done value tied =>
      subst here there
      exact .done value ⟨tied, initialized, trace⟩
  | fail fault tied =>
      subst here there
      exact .fail fault ⟨tied, initialized, trace⟩
  | readLeft _ ih =>
      subst here
      exact .readLeft (ih initialized trace rfl there)
  | readRight _ ih =>
      subst there
      exact .readRight (ih initialized trace here rfl)
  | writeLeft spared _ ih =>
      subst here
      exact .readLeft (.writeLeft spared (ih initialized trace rfl there))
  | writeRight _ ih => exact .readRight (.writeRight (ih initialized trace here rfl))
  | wait duration tied _ ih =>
      subst here there
      refine .wait duration ⟨tied, initialized, trace⟩ ?_
      intro engine other tied
      exact ih _ _ tied.inner tied.initialized tied.trace rfl rfl

namespace Workflow

theorem tracks_invoke {left : Proc S α} {right : Proc T α} (invocation : Invocation Act)
    (tracks : left.Tracks tie right) :
    (invoke invocation left).Tracks tie.engine (invoke invocation right) := by
  refine Proc.Tracks.bind (Proc.tracks_modify ?_ ?_) ?_
  · exact fun engine => tie.refl engine.inner
  · intro engine other tied
    exact ⟨tied.inner, tied.initialized, congrArg (· ++ [invocation]) tied.trace⟩
  · intro _ engine other tied
    exact (tracks _ _ tied.inner).onEngine tied.initialized tied.trace

theorem tracks_foldStage (invocation : Nat → β → Invocation Act) {works : List (β → Proc S β)}
    {others : List (β → Proc T β)}
    (track : List.Forall₂ (fun left right => ∀ value, (left value).Tracks tie (right value))
      works others) (position : Nat) (value : β) :
    (foldStage invocation position works value).Tracks tie.engine
      (foldStage invocation position others value) := by
  induction track generalizing position value with
  | nil => exact Proc.tracks_done value
  | cons head _ ih =>
      exact (tracks_invoke _ (head value)).bind fun next => ih (position + 1) next

theorem tracks_firstOf (invocation : Nat → Invocation Act) {works : List (Proc S (Option β))}
    {others : List (Proc T (Option β))}
    (track : List.Forall₂ (Proc.Tracks tie) works others) (position : Nat) :
    (firstOf invocation position works).Tracks tie.engine
      (firstOf invocation position others) := by
  induction track generalizing position with
  | nil => exact Proc.tracks_done none
  | cons head _ ih =>
      refine (tracks_invoke _ head).bind ?_
      rintro (_ | value)
      · exact ih (position + 1)
      · exact Proc.tracks_done _

theorem tracks_signOffHooks {works : List (Request → Proc S Request)}
    {others : List (Request → Proc T Request)}
    (track : List.Forall₂ (fun left right => ∀ request, (left request).Tracks tie (right request))
      works others) (position : Nat) (farewell : Farewell) :
    (signOffHooks position works farewell).Tracks (tie.engine : Tie (Engine S Act) (Engine T Act))
      (signOffHooks position others farewell) := by
  induction track generalizing position farewell with
  | nil => exact Proc.tracks_done farewell
  | cons head _ ih =>
      refine (tracks_invoke _ (head farewell.request)).attemptError.bind ?_
      rintro (cause | request)
      · exact ih (position + 1) _
      · exact ih (position + 1) _

end Workflow

end GuidedLogin
