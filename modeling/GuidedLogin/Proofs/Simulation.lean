/-
Works that do alike. One work simulates another if from related states both lead to related
states and end alike, with one fault or with values that agree (`Proc.Simulates`). Every way
to put works together keeps that. Requests are alike if nothing but the order of their
headers tells them apart.
-/
import GuidedLogin.Proofs.Calls
import Mathlib.Data.List.Forall2
import Mathlib.Data.Multiset.AddSub

namespace GuidedLogin

variable {σ τ α β γ δ ε : Type}

inductive EndsAlike (agree : α → β → Prop) : Except ε α → Except ε β → Prop where
  | ok {left : α} {right : β} (agreed : agree left right) : EndsAlike agree (.ok left) (.ok right)
  | error (failure : ε) : EndsAlike agree (.error failure) (.error failure)

theorem EndsAlike.refl (outcome : Except ε α) : EndsAlike Eq outcome outcome := by
  cases outcome with
  | ok value => exact .ok rfl
  | error failure => exact .error failure

namespace Proc

/-- Works that lead from related states to related states, and end alike. -/
def Simulates (related : σ → τ → Prop) (agree : α → β → Prop) (left : Proc σ α)
    (right : Proc τ β) : Prop :=
  ∀ first second, related first second →
    EndsAlike agree (left.run first).1 (right.run second).1 ∧
      related (left.run first).2 (right.run second).2

variable {related : σ → τ → Prop} {agree : α → β → Prop} {further : γ → δ → Prop}
variable {left : Proc σ α} {right : Proc τ β}

theorem simulates_done {value : α} {other : β} (agreed : agree value other) :
    (done value : Proc σ α).Simulates related agree (done other : Proc τ β) :=
  fun _ _ held => ⟨.ok agreed, held⟩

theorem simulates_fail (fault : Fault) :
    (fail fault : Proc σ α).Simulates related agree (fail fault : Proc τ β) :=
  fun _ _ held => ⟨.error fault, held⟩

theorem simulates_state :
    (state : Proc σ σ).Simulates related related (state : Proc τ τ) :=
  fun _ _ held => ⟨.ok held, held⟩

theorem simulates_modify {change : σ → σ} {other : τ → τ}
    (kept : ∀ first second, related first second → related (change first) (other second)) :
    (modify change).Simulates related Eq (modify other) :=
  fun first second held => ⟨.ok rfl, kept first second held⟩

theorem Simulates.bind {next : α → Proc σ γ} {other : β → Proc τ δ}
    (first : left.Simulates related agree right)
    (rest : ∀ value another, agree value another →
      (next value).Simulates related further (other another)) :
    (left.bind next).Simulates related further (right.bind other) := by
  intro state another held
  obtain ⟨ends, between⟩ := first state another held
  rw [run_bind, run_bind]
  rcases ranLeft : left.run state with ⟨outcome, after⟩
  rcases ranRight : right.run another with ⟨outcome', after'⟩
  rw [ranLeft, ranRight] at ends between
  cases ends with
  | ok agreed => exact rest _ _ agreed after after' between
  | error fault => exact ⟨.error fault, between⟩

theorem Simulates.wait (alike : left.Simulates related agree right) (duration other : Nat) :
    (wait duration left).Simulates related agree (wait other right) := alike

theorem Simulates.attempt (alike : left.Simulates related agree right) :
    left.attempt.Simulates related (EndsAlike agree) right.attempt := by
  intro first second held
  obtain ⟨ends, after⟩ := alike first second held
  rw [run_attempt, run_attempt]
  exact ⟨.ok ends, after⟩

theorem simulates_ofOutcome {outcome : Except Fault α} {other : Except Fault β}
    (ends : EndsAlike agree outcome other) :
    (ofOutcome outcome : Proc σ α).Simulates related agree (ofOutcome other : Proc τ β) := by
  cases ends with
  | ok agreed => exact simulates_done agreed
  | error fault => exact simulates_fail fault

theorem simulates_ofExcept {outcome : Except Error α} {other : Except Error β}
    (ends : EndsAlike agree outcome other) :
    (ofExcept outcome : Proc σ α).Simulates related agree (ofExcept other : Proc τ β) := by
  cases ends with
  | ok agreed => exact simulates_done agreed
  | error cause => exact simulates_fail _

theorem Simulates.attemptError (alike : left.Simulates related agree right) :
    left.attemptError.Simulates related (EndsAlike agree) right.attemptError := by
  apply alike.attempt.bind
  intro outcome other ends
  cases ends with
  | ok agreed => exact simulates_done (.ok agreed)
  | error fault =>
      cases fault with
      | error cause => exact simulates_done (.error cause)
      | panic payload => exact simulates_fail _

theorem Simulates.on {S T : Type} {whole : S → T → Prop} {part : Part S σ} {other : Part T τ}
    (alike : left.Simulates related agree right) (lawful : part.Lawful) (otherLawful : other.Lawful)
    (get : ∀ first second, whole first second → related (part.get first) (other.get second))
    (set : ∀ first second value another, whole first second → related value another →
      whole (part.set value first) (other.set another second)) :
    (left.on part).Simulates whole agree (right.on other) := by
  intro first second held
  obtain ⟨ends, after⟩ := alike _ _ (get first second held)
  rw [run_on part lawful, run_on other otherLawful]
  exact ⟨ends, set first second _ _ held after⟩

end Proc

/-! ### Requests and responses -/

structure Request.Alike (left right : Request) : Prop where
  method : left.method = right.method
  url : left.url = right.url
  parameters : left.parameters = right.parameters
  headers : left.headers.Perm right.headers
  body : left.body = right.body

structure Request.Plain where
  method : String
  url : Option Url
  parameters : List (String × String)
  headers : Multiset (String × String)
  body : Body

def Request.plain (request : Request) : Request.Plain :=
  ⟨request.method, request.url, request.parameters, request.headers, request.body⟩

namespace Request

theorem alike_iff {left right : Request} : left.Alike right ↔ left.plain = right.plain := by
  unfold plain
  rw [Plain.mk.injEq, Multiset.coe_eq_coe]
  constructor
  · rintro ⟨method, url, parameters, headers, body⟩
    exact ⟨method, url, parameters, headers, body⟩
  · rintro ⟨method, url, parameters, headers, body⟩
    exact ⟨method, url, parameters, headers, body⟩

theorem Alike.refl (request : Request) : request.Alike request := alike_iff.mpr rfl

end Request

structure Response.Alike (left right : Response) : Prop where
  request : left.request.Alike right.request
  status : left.status = right.status
  headers : left.headers = right.headers
  body : left.body = right.body

/-! ### Engines -/

variable {S T Act : Type}

def Invocation.sent? : Invocation Act → Option Request
  | .transport request => some request
  | _ => none

def Engine.sent (engine : Engine S Act) : List Request := engine.trace.filterMap Invocation.sent?

structure Engine.Alike (related : S → T → Prop) (left : Engine S Act) (right : Engine T Act) :
    Prop where
  inner : related left.inner right.inner
  initialized : left.initialized = right.initialized
  sent : List.Forall₂ Request.Alike left.sent right.sent

namespace Workflow

variable {related : S → T → Prop} {agree : α → β → Prop}

theorem simulates_invoke {left : Proc S α} {right : Proc T β} {invocation other : Invocation Act}
    (told : Option.Rel Request.Alike invocation.sent? other.sent?)
    (alike : left.Simulates related agree right) :
    (invoke invocation left).Simulates (Engine.Alike related) agree (invoke other right) := by
  intro first second held
  obtain ⟨ends, after⟩ := alike _ _ held.inner
  rw [run_invoke, run_invoke]
  refine ⟨ends, after, held.initialized, ?_⟩
  unfold Engine.sent
  rw [List.filterMap_append, List.filterMap_append]
  apply List.rel_append held.sent
  rw [List.filterMap_cons, List.filterMap_cons, List.filterMap_nil]
  generalize invocation.sent? = request at told ⊢
  generalize other.sent? = another at told ⊢
  cases told with
  | none => exact .nil
  | some alike => exact .cons alike .nil

variable {given : Nat → α → Invocation Act} {other : Nat → β → Invocation Act}

theorem simulates_foldStage (silent : ∀ position value, (given position value).sent? = none)
    (otherSilent : ∀ position value, (other position value).sent? = none)
    {works : List (α → Proc S α)} {others : List (β → Proc T β)}
    (alike : List.Forall₂ (fun left right => ∀ value another, agree value another →
      (left value).Simulates related agree (right another)) works others)
    (first second : Nat) {value : α} {another : β} (agreed : agree value another) :
    (foldStage given first works value).Simulates (Engine.Alike related) agree
      (foldStage other second others another) := by
  induction alike generalizing first second value another with
  | nil => exact Proc.simulates_done agreed
  | cons head tail ih =>
      apply (simulates_invoke _ (head value another agreed)).bind
      · intro next onward agreed
        exact ih (first + 1) (second + 1) agreed
      · rw [silent, otherSilent]
        exact .none

theorem simulates_firstOf {given other : Nat → Invocation Act}
    (silent : ∀ position, (given position).sent? = none)
    (otherSilent : ∀ position, (other position).sent? = none)
    {works : List (Proc S (Option α))} {others : List (Proc T (Option α))}
    (alike : List.Forall₂ (Proc.Simulates related Eq) works others) (first second : Nat) :
    (firstOf given first works).Simulates (Engine.Alike related) Eq
      (firstOf other second others) := by
  induction alike generalizing first second with
  | nil => exact Proc.simulates_done rfl
  | cons head tail ih =>
      apply (simulates_invoke _ head).bind
      · rintro found _ rfl
        cases found with
        | some value => exact Proc.simulates_done rfl
        | none => exact ih (first + 1) (second + 1)
      · rw [silent, otherSilent]
        exact .none

end Workflow

end GuidedLogin
