/-
The order of what calls that are in progress at once do. It goes through a gate that is
shut until one of them has got past all initial hooks, that one call at a time is within,
and that stays open from then on (`Gate.Step`). Whatever a gate lets pass is in order
(`Orderly`, `orderly_of_leads`): a run goes over the initial hooks from the first on with
nothing in between, and is complete only with all of them; no two runs are under way at once;
behind one that failed or was dropped nothing happens before another begins; behind a
complete one nothing initial happens again.
-/
import GuidedLogin.Proofs.Record
import Mathlib.Data.List.Induction

namespace GuidedLogin

variable {S Act : Type}

inductive Ending where
  | completed
  | failed (fault : Fault)
  | dropped

inductive Moment (Act : Type) where
  | began (call : Nat)
  | invoked (call : Nat) (invocation : Invocation Act)
  | ended (call : Nat) (ending : Ending)

def Moment.invocation? : Moment Act → Option (Invocation Act)
  | .invoked _ invocation => some invocation
  | _ => none

def initMoments (call first count : Nat) : List (Moment Act) :=
  (List.range' first count).map fun position => .invoked call (.init position)

structure Orderly (hooks : Nat) (moments : List (Moment Act)) (last : Engine S Act) : Prop where
  told : last.trace = moments.filterMap Moment.invocation?
  exclusive : ∀ earlier call position between other again later,
    moments = earlier ++ .invoked call (.init position) ::
      (between ++ .invoked other (.init again) :: later) →
    other ≠ call → ∃ ending, .ended call ending ∈ between
  runs : ∀ earlier call later, moments = earlier ++ .began call :: later →
    ∃ count rest, later = initMoments call 0 count ++ rest ∧ count ≤ hooks ∧
      (0 < hooks → 0 < count) ∧
      (rest = [] ∨ ∃ ending onward, rest = .ended call ending :: onward ∧
        (ending = .completed → count = hooks))
  within : ∀ earlier call position later,
    moments = earlier ++ .invoked call (.init position) :: later →
    ∃ before, earlier = before ++ .began call :: initMoments call 0 position
  restarts : ∀ earlier call ending later, moments = earlier ++ .ended call ending :: later →
    ending ≠ .completed → later = [] ∨ ∃ other onward, later = .began other :: onward
  once : ∀ earlier call later, moments = earlier ++ .ended call .completed :: later →
    ∀ moment ∈ later, ∃ other invocation, moment = .invoked other invocation ∧
      ¬ invocation.IsInit
  beyond : ∀ earlier call invocation later, moments = earlier ++ .invoked call invocation :: later →
    ¬ invocation.IsInit → ∃ other, .ended other .completed ∈ earlier
  initialized : last.initialized = true ↔ ∃ call, .ended call .completed ∈ moments

/-- Where all calls stand: none is within a run, one has invoked a number of hooks in its
run, or a run is complete. -/
inductive Gate where
  | shut
  | held (call count : Nat)
  | opened

namespace Gate

def holder? : Gate → Option Nat
  | .held call _ => some call
  | _ => none

inductive Step (hooks : Nat) : Gate → Moment Act → Gate → Prop where
  | begin (call : Nat) : Step hooks .shut (.began call) (.held call 0)
  | invoke (call count : Nat) (within : count < hooks) :
      Step hooks (.held call count) (.invoked call (.init count)) (.held call (count + 1))
  | complete (call : Nat) : Step hooks (.held call hooks) (.ended call .completed) .opened
  | fail (call count : Nat) (fault : Fault) (begun : 0 < count) :
      Step hooks (.held call count) (.ended call (.failed fault)) .shut
  | drop (call count : Nat) (begun : 0 < count) :
      Step hooks (.held call count) (.ended call .dropped) .shut
  | goOn (call : Nat) {invocation : Invocation Act} (beyond : ¬ invocation.IsInit) :
      Step hooks .opened (.invoked call invocation) .opened

inductive Leads (hooks : Nat) : Gate → List (Moment Act) → Gate → Prop where
  | nil (gate : Gate) : Leads hooks gate [] gate
  | cons {first second third : Gate} {moment : Moment Act} {later : List (Moment Act)}
      (step : Step hooks first moment second) (onward : Leads hooks second later third) :
      Leads hooks first (moment :: later) third

variable {hooks : Nat} {first last gate : Gate} {moments earlier later : List (Moment Act)}
variable {moment : Moment Act} {call count : Nat}

theorem Leads.append {middle : Gate} (leads : Leads hooks first earlier middle)
    (onward : Leads hooks middle later last) : Leads hooks first (earlier ++ later) last := by
  induction leads with
  | nil gate => exact onward
  | cons step _ ih => exact .cons step (ih onward)

private theorem Leads.split (leads : Leads hooks first (earlier ++ later) last) :
    ∃ middle, Leads hooks first earlier middle ∧ Leads hooks middle later last := by
  induction earlier generalizing first with
  | nil => exact ⟨first, .nil first, leads⟩
  | cons moment rest ih =>
      cases leads with
      | cons step onward =>
          obtain ⟨middle, before, behind⟩ := ih onward
          exact ⟨middle, .cons step before, behind⟩

theorem Leads.at (leads : Leads hooks first (earlier ++ moment :: later) last) :
    ∃ before behind, Leads hooks first earlier before ∧ Step hooks before moment behind ∧
      Leads hooks behind later last := by
  obtain ⟨before, front, back⟩ := leads.split
  cases back with
  | cons step onward => exact ⟨before, _, front, step, onward⟩

private theorem Leads.at_init {position : Nat}
    (leads : Leads hooks first (earlier ++ .invoked call (.init position) :: later) last) :
    Leads hooks first earlier (.held call position) ∧
      Leads hooks (.held call (position + 1)) later last := by
  obtain ⟨before, behind, front, step, onward⟩ := leads.at
  cases step with
  | invoke => exact ⟨front, onward⟩
  | goOn _ beyond => exact absurd ⟨position, rfl⟩ beyond

theorem leads_initMoments (call count more : Nat) (within : count + more ≤ hooks) :
    Leads hooks (.held call count) (initMoments call count more : List (Moment Act))
      (.held call (count + more)) := by
  induction more generalizing count with
  | zero => exact .nil _
  | succ more ih =>
      have onward := ih (count + 1) (by omega)
      rw [Nat.add_right_comm] at onward
      exact .cons (.invoke call count (by omega)) onward

theorem leads_goOn (call : Nat) {fresh : List (Invocation Act)}
    (beyond : ∀ invocation ∈ fresh, ¬ invocation.IsInit) :
    Leads hooks .opened (fresh.map (.invoked call)) .opened := by
  induction fresh with
  | nil => exact .nil _
  | cons invocation rest ih =>
      refine .cons (.goOn call (beyond invocation List.mem_cons_self)) (ih ?_)
      exact fun other member => beyond other (List.mem_cons_of_mem invocation member)

private theorem Leads.of_opened (leads : Leads hooks .opened moments last) :
    last = .opened ∧ ∀ moment ∈ moments, ∃ other invocation, moment = .invoked other invocation ∧
      ¬ invocation.IsInit := by
  induction moments with
  | nil =>
      cases leads with
      | nil => exact ⟨rfl, fun moment member => absurd member List.not_mem_nil⟩
  | cons moment later ih =>
      cases leads with
      | cons step onward =>
          cases step with
          | goOn call beyond =>
              obtain ⟨stays, all⟩ := ih onward
              refine ⟨stays, ?_⟩
              intro moment member
              rcases List.mem_cons.mp member with rfl | inLater
              · exact ⟨call, _, rfl, beyond⟩
              · exact all moment inLater

/-- The gate is opened by a complete run and by nothing else. -/
theorem Leads.completed (leads : Leads hooks first moments .opened) :
    first = .opened ∨ ∃ call, .ended call .completed ∈ moments := by
  induction moments generalizing first with
  | nil =>
      cases leads with
      | nil => exact Or.inl rfl
  | cons moment later ih =>
      cases leads with
      | cons step onward =>
          rcases ih onward with rfl | ⟨call, member⟩
          · cases step with
            | complete call => exact Or.inr ⟨call, List.mem_cons_self⟩
            | goOn call beyond => exact Or.inl rfl
          · exact Or.inr ⟨call, List.mem_cons_of_mem _ member⟩

theorem Leads.of_held (leads : Leads hooks (.held call count) moments last)
    (unended : ∀ ending, .ended call ending ∉ moments) :
    last = .held call (count + moments.length) ∧ moments = initMoments call count moments.length := by
  induction moments generalizing count with
  | nil =>
      cases leads with
      | nil => exact ⟨rfl, rfl⟩
  | cons moment later ih =>
      cases leads with
      | cons step onward =>
          cases step with
          | invoke _ _ within =>
              obtain ⟨stays, same⟩ := ih onward fun ending member =>
                unended ending (List.mem_cons_of_mem _ member)
              rw [List.length_cons, stays, Nat.add_right_comm]
              refine ⟨rfl, ?_⟩
              conv => lhs; rw [same]
              rw [initMoments, initMoments, List.range'_succ, List.map_cons]
          | complete => exact absurd List.mem_cons_self (unended .completed)
          | fail _ _ fault => exact absurd List.mem_cons_self (unended (.failed fault))
          | drop => exact absurd List.mem_cons_self (unended .dropped)

/-- What a call does from within a run: some more hooks, and perhaps the end of it. -/
theorem Leads.run (leads : Leads hooks (.held call count) moments last)
    (rests : ∀ other, last ≠ .held other 0) (within : count ≤ hooks) :
    ∃ more rest, moments = initMoments call count more ++ rest ∧ count + more ≤ hooks ∧
      (0 < hooks → 0 < count + more) ∧
      (rest = [] ∨ ∃ ending onward, rest = .ended call ending :: onward ∧
        (ending = .completed → count + more = hooks)) := by
  induction moments generalizing count with
  | nil =>
      cases leads with
      | nil =>
          have begun : count ≠ 0 := by
            rintro rfl
            exact rests call rfl
          exact ⟨0, [], rfl, within, fun _ => by omega, Or.inl rfl⟩
  | cons moment later ih =>
      cases leads with
      | cons step onward =>
          cases step with
          | invoke _ _ below =>
              obtain ⟨more, rest, same, total, begun, ended⟩ := ih onward below
              refine ⟨more + 1, rest, ?_, by omega, fun _ => by omega, ?_⟩
              · rw [same, initMoments, initMoments, List.range'_succ, List.map_cons]
                rfl
              · rw [Nat.add_comm more 1, ← Nat.add_assoc]
                exact ended
          | complete =>
              exact ⟨0, _, rfl, within, fun some => some, Or.inr ⟨.completed, later, rfl, fun _ => rfl⟩⟩
          | fail _ _ fault begun =>
              exact ⟨0, _, rfl, within, fun _ => begun,
                Or.inr ⟨.failed fault, later, rfl, fun done => nomatch done⟩⟩
          | drop _ _ begun =>
              exact ⟨0, _, rfl, within, fun _ => begun,
                Or.inr ⟨.dropped, later, rfl, fun done => nomatch done⟩⟩

/-- What leads to a call within a run: its beginning, and the hooks invoked since then. -/
theorem Leads.to_held (leads : Leads hooks first moments (.held call count))
    (outside : ∀ other at', first ≠ .held other at') :
    ∃ before, moments = before ++ .began call :: initMoments call 0 count := by
  induction moments using List.reverseRecOn generalizing count with
  | nil =>
      cases leads with
      | nil => exact absurd rfl (outside call count)
  | append_singleton earlier moment ih =>
      obtain ⟨before, behind, front, step, ended⟩ := leads.at
      cases ended with
      | nil =>
          cases step with
          | begin => exact ⟨earlier, rfl⟩
          | invoke _ count below =>
              obtain ⟨start, same⟩ := ih front
              refine ⟨start, ?_⟩
              rw [same, List.append_assoc, List.cons_append, initMoments, initMoments,
                List.range'_concat, List.map_append]
              simp

theorem Leads.holder (leads : Leads hooks .shut moments gate) :
    gate.holder? = none ↔ ∀ earlier call later, moments = earlier ++ .began call :: later →
      ∃ ending, .ended call ending ∈ later := by
  constructor
  · intro free earlier call later same
    subst same
    obtain ⟨before, behind, _, step, onward⟩ := leads.at
    cases step
    apply Classical.byContradiction
    intro none
    obtain ⟨stays, _⟩ := onward.of_held fun ending member => none ⟨ending, member⟩
    rw [stays] at free
    cases free
  · intro ended
    cases gate with
    | shut => rfl
    | opened => rfl
    | held call count =>
        obtain ⟨before, same⟩ := leads.to_held fun _ _ shut => nomatch shut
        obtain ⟨ending, member⟩ := ended before call _ same
        obtain ⟨position, _, invoked⟩ := List.mem_map.mp member
        cases invoked

end Gate

variable {hooks : Nat} {moments : List (Moment Act)} {last : Engine S Act} {gate : Gate}

/-- Whatever a gate lets pass is in order. -/
theorem orderly_of_leads (leads : Gate.Leads hooks .shut moments gate)
    (rests : ∀ call, gate ≠ .held call 0)
    (told : last.trace = moments.filterMap Moment.invocation?)
    (initialized : last.initialized = true ↔ gate = .opened) :
    Orderly hooks moments last where
  told := told
  exclusive := by
    intro earlier call position between other again later same apart
    subst same
    obtain ⟨_, onward⟩ := leads.at_init
    obtain ⟨middle, _, within, next, _⟩ := onward.at
    apply Classical.byContradiction
    intro none
    have unended : ∀ ending, .ended call ending ∉ between := fun ending member =>
      none ⟨ending, member⟩
    obtain ⟨stays, _⟩ := within.of_held unended
    subst stays
    cases next
    exact apart rfl
  runs := by
    intro earlier call later same
    subst same
    obtain ⟨before, behind, _, step, onward⟩ := leads.at
    cases step
    obtain ⟨count, rest, run⟩ := onward.run rests (Nat.zero_le hooks)
    rw [Nat.zero_add] at run
    exact ⟨count, rest, run⟩
  within := by
    intro earlier call position later same
    subst same
    exact leads.at_init.1.to_held fun _ _ shut => nomatch shut
  restarts := by
    intro earlier call ending later same incomplete
    subst same
    obtain ⟨before, behind, _, step, onward⟩ := leads.at
    have shut : behind = .shut := by
      cases step with
      | complete => exact absurd rfl incomplete
      | fail => rfl
      | drop => rfl
    subst shut
    cases onward with
    | nil => exact Or.inl rfl
    | cons again _ =>
        cases again with
        | begin other => exact Or.inr ⟨other, _, rfl⟩
  once := by
    intro earlier call later same
    subst same
    obtain ⟨before, behind, _, step, onward⟩ := leads.at
    cases step
    exact onward.of_opened.2
  beyond := by
    intro earlier call invocation later same further
    subst same
    obtain ⟨before, behind, front, step, _⟩ := leads.at
    cases step with
    | invoke => exact absurd ⟨_, rfl⟩ further
    | goOn =>
        rcases front.completed with opened | completed
        · cases opened
        · exact completed
  initialized := by
    rw [initialized]
    constructor
    · rintro rfl
      rcases leads.completed with opened | completed
      · cases opened
      · exact completed
    · rintro ⟨call, member⟩
      obtain ⟨earlier, later, same⟩ := List.append_of_mem member
      subst same
      obtain ⟨before, behind, _, step, onward⟩ := leads.at
      cases step
      exact onward.of_opened.1

end GuidedLogin
