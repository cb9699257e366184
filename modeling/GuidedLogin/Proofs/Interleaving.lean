/-
Calls to one workflow in progress at once. They are made, go on, wait and are dropped in
any order (`Move`), and what they do up to then is a story (`story`). Every move leads the
gate on (`moves_on`), so every story is in order (`orderly_story`).
-/
import GuidedLogin.Proofs.Gate
import GuidedLogin.Proofs.Suspended
import GuidedLogin.Workflow.Concurrent

namespace GuidedLogin

variable {κ S Act : Type}

inductive Move (S Act : Type) where
  | join (visit : Visit Act)
  | poll (index : Nat)
  | elapse (duration : Nat)
  | drop (index : Nat)
  | drift (state : S)

abbrev Crowd (S Act : Type) : Type := Pool (Engine S Act) (Upshot Act)

/-- What a call invokes from a state on, as the trace behind it tells. -/
def invokedBy (call : Nat) (before after : Engine S Act) : List (Moment Act) :=
  (after.trace.drop before.trace.length).map (.invoked call)

def Ending.ofOutcome : Except Fault Unit → Ending
  | .ok _ => .completed
  | .error fault => .failed fault

namespace Crowd

/-- What a call does that goes on with its guarded work. That is a run over the initial
hooks unless they have all succeeded before. -/
def guardMoments (crowd : Crowd S Act) (index : Nat)
    (rest : Proc (Engine S Act) (Except Fault Unit))
    (body : Except Fault Unit → Proc (Engine S Act) (Upshot Act)) : List (Moment Act) :=
  let goOn (outcome : Except Fault Unit) (state : Engine S Act) : List (Moment Act) :=
    invokedBy index crowd.state state ++
      (if crowd.state.initialized then [] else [.ended index (.ofOutcome outcome)]) ++
      invokedBy index state ((body outcome).advance state).2
  match rest.advance crowd.state with
  | (.done outcome, state) => goOn outcome state
  | (.failed fault, state) => goOn (.error fault) state
  | (.waiting _ _, state) => invokedBy index crowd.state state

def pollMoments (crowd : Crowd S Act) (index : Nat) : List (Moment Act) :=
  match crowd.tasks[index]? with
  | some (.pending call) =>
      if crowd.holder.isNone then
        (if crowd.state.initialized then [] else [.began index]) ++
          crowd.guardMoments index call.guarded.attempt call.body
      else []
  | some (.guarding due rest body) =>
      if due ≤ crowd.now then crowd.guardMoments index rest body else []
  | some (.working due rest) =>
      if due ≤ crowd.now then invokedBy index crowd.state (rest.advance crowd.state).2 else []
  | _ => []

def moments (crowd : Crowd S Act) : Move S Act → List (Moment Act)
  | .poll index => crowd.pollMoments index
  | .drop index =>
      match crowd.tasks[index]? with
      | some (.guarding _ _ _) => [.ended index .dropped]
      | _ => []
  | _ => []

end Crowd

namespace Workflow

def move (workflow : Workflow κ S Act) (crowd : Crowd S Act) : Move S Act → Crowd S Act
  | .join visit => crowd.join (workflow.call visit)
  | .poll index => crowd.poll index
  | .elapse duration => { crowd with now := crowd.now + duration }
  | .drop index => crowd.drop index
  | .drift state => { crowd with state := { crowd.state with inner := state } }

def story (workflow : Workflow κ S Act) : Crowd S Act → List (Move S Act) → List (Moment Act)
  | _, [] => []
  | crowd, move :: rest =>
      crowd.moments move ++ workflow.story (workflow.move crowd move) rest

def StandsAt (workflow : Workflow κ S Act) (gate : Gate) (index : Nat) :
    Task (Engine S Act) (Upshot Act) → Prop
  | .pending call => ∃ visit, call = workflow.call visit
  | .guarding _ rest body => ∃ count later work visit, gate = .held index count ∧ 0 < count ∧
      rest = pursue count later work ∧ count + later.length = workflow.hooks.init.length ∧
      body = (workflow.call visit).body
  | .working _ rest => gate = .opened ∧ rest.Tame Beyond
  | .finished _ => True
  | .dropped => True

structure Stands (workflow : Workflow κ S Act) (crowd : Crowd S Act) (gate : Gate) : Prop where
  tasks : ∀ index task, crowd.tasks[index]? = some task → workflow.StandsAt gate index task
  holder : crowd.holder = gate.holder?
  initialized : crowd.state.initialized = true ↔ gate = .opened
  begun : ∀ call, gate ≠ .held call 0

structure LeadsOn (workflow : Workflow κ S Act) (before : Crowd S Act) (first : Gate)
    (moments : List (Moment Act)) (after : Crowd S Act) (last : Gate) : Prop where
  leads : Gate.Leads workflow.hooks.init.length first moments last
  stands : workflow.Stands after last
  told : after.state.trace = before.state.trace ++ moments.filterMap Moment.invocation?

variable {workflow : Workflow κ S Act} {crowd : Crowd S Act} {gate : Gate} {index : Nat}

/-! ### Moments and traces -/

theorem invokedBy_of_trace {call : Nat} {before after : Engine S Act}
    {fresh : List (Invocation Act)} (traced : after.trace = before.trace ++ fresh) :
    invokedBy call before after = fresh.map (.invoked call) := by
  rw [invokedBy, traced, List.drop_left]

theorem told_invokedBy {call : Nat} {before after : Engine S Act}
    {fresh : List (Invocation Act)} (traced : after.trace = before.trace ++ fresh) :
    (invokedBy call before after).filterMap Moment.invocation? = fresh := by
  rw [invokedBy_of_trace traced, List.filterMap_map]
  exact List.filterMap_some

private theorem invokedBy_init {call first count : Nat} {before after : Engine S Act}
    (traced : after.trace = before.trace ++ (List.range' first count).map .init) :
    invokedBy call before after = initMoments call first count := by
  rw [invokedBy_of_trace traced, List.map_map]
  rfl

/-! ### Calls beside the one that goes on -/

/-- A call keeps its place when another one ends its run. -/
theorem StandsAt.leave {task : Task (Engine S Act) (Upshot Act)} {other call count : Nat}
    (stands : workflow.StandsAt (.held call count) other task) (apart : other ≠ call)
    (next : Gate) : workflow.StandsAt next other task := by
  cases task with
  | pending call => exact stands
  | guarding due rest body =>
      obtain ⟨_, _, _, _, held, _⟩ := stands
      cases held
      exact absurd rfl apart
  | working due rest => exact nomatch stands.1
  | finished outcome => trivial
  | dropped => trivial

private theorem StandsAt.enter {task : Task (Engine S Act) (Upshot Act)} {other : Nat}
    (stands : workflow.StandsAt .shut other task) (next : Gate) :
    workflow.StandsAt next other task := by
  cases task with
  | pending call => exact stands
  | guarding due rest body =>
      obtain ⟨_, _, _, _, held, _⟩ := stands
      cases held
  | working due rest => exact nomatch stands.1
  | finished outcome => trivial
  | dropped => trivial

theorem standsAt_set {tasks : List (Task (Engine S Act) (Upshot Act))}
    {task : Task (Engine S Act) (Upshot Act)}
    (others : ∀ other task, other ≠ index → tasks[other]? = some task →
      workflow.StandsAt gate other task)
    (here : workflow.StandsAt gate index task) :
    ∀ other found, (tasks.set index task)[other]? = some found →
      workflow.StandsAt gate other found := by
  intro other found placed
  rw [List.getElem?_set] at placed
  by_cases same : index = other
  · subst same
    rw [if_pos rfl] at placed
    split at placed
    · cases placed
      exact here
    · cases placed
  · rw [if_neg same] at placed
    exact others other found (fun again => same again.symm) placed

/-! ### Going on -/

theorem work_leadsOn (workflow : Workflow κ S Act) (crowd : Crowd S Act) (index : Nat)
    {rest : Proc (Engine S Act) (Upshot Act)}
    (others : ∀ other task, other ≠ index → crowd.tasks[other]? = some task →
      workflow.StandsAt .opened other task)
    (free : crowd.holder = none) (initialized : crowd.state.initialized = true)
    (tame : rest.Tame Beyond) :
    workflow.LeadsOn crowd .opened (invokedBy index crowd.state (rest.advance crowd.state).2)
      (crowd.work index rest) .opened := by
  obtain ⟨extends', waits⟩ := (tame crowd.state).advance
  obtain ⟨fresh, traced, beyond⟩ := extends'.traced
  have left : (rest.advance crowd.state).2.initialized = true :=
    extends'.initialized.trans initialized
  refine ⟨?_, ?_, ?_⟩
  · rw [invokedBy_of_trace traced]
    exact Gate.leads_goOn index beyond
  · unfold Pool.work
    rcases ended : rest.advance crowd.state with ⟨value | fault | ⟨duration, onward⟩, state⟩
    · rw [ended] at left
      exact ⟨standsAt_set others trivial, free, iff_of_true left rfl, fun _ held => nomatch held⟩
    · rw [ended] at left
      exact ⟨standsAt_set others trivial, free, iff_of_true left rfl, fun _ held => nomatch held⟩
    · rw [ended] at left waits
      exact ⟨standsAt_set others ⟨rfl, waits duration onward rfl⟩, free, iff_of_true left rfl,
        fun _ held => nomatch held⟩
  · rw [told_invokedBy traced, ← traced]
    unfold Pool.work
    rcases rest.advance crowd.state with ⟨value | fault | ⟨duration, onward⟩, state⟩ <;> rfl

theorem guard_leadsOn {rest : Proc (Engine S Act) (Except Fault Unit)} {first count : Nat}
    (visit : Visit Act)
    (others : ∀ other task, other ≠ index → crowd.tasks[other]? = some task →
      ∀ next, workflow.StandsAt next other task)
    (uninitialized : crowd.state.initialized = false)
    (within : first + count ≤ workflow.hooks.init.length)
    (traced : (rest.advance crowd.state).2.trace =
      crowd.state.trace ++ (List.range' first count).map .init)
    (pursued : PursuedTo workflow.hooks.init.length (first + count)
      (rest.advance crowd.state).1 (rest.advance crowd.state).2) :
    ∃ last, workflow.LeadsOn crowd (.held index first)
      (crowd.guardMoments index rest (workflow.call visit).body)
      (crowd.guard index rest (workflow.call visit).body) last := by
  have invoked : Gate.Leads workflow.hooks.init.length (.held index first)
      (initMoments index first count : List (Moment Act)) (.held index (first + count)) :=
    Gate.leads_initMoments index first count within
  unfold Crowd.guardMoments Pool.guard
  rcases ended : rest.advance crowd.state with ⟨(fault | done) | fault | ⟨duration, onward⟩, state⟩
  · rw [ended] at traced pursued
    obtain ⟨left, begun⟩ := pursued
    have idle : invokedBy index state state = ([] : List (Moment Act)) :=
      invokedBy_of_trace (List.append_nil state.trace).symm
    dsimp only
    rw [advance_body_error, uninitialized, invokedBy_init traced, idle, List.append_nil]
    refine ⟨.shut, invoked.append (.cons (.fail index _ fault begun) (.nil _)), ?_, ?_⟩
    · unfold Pool.work
      rw [advance_body_error]
      exact ⟨standsAt_set (fun other task apart found => others other task apart found .shut) trivial,
        rfl, iff_of_false (Bool.eq_false_iff.mp left) (fun shut => nomatch shut),
        fun _ held => nomatch held⟩
    · unfold Pool.work
      rw [advance_body_error, ← invokedBy_init traced, List.filterMap_append,
        told_invokedBy traced]
      exact traced.trans (congrArg _ (List.append_nil _).symm)
  · rw [ended] at traced pursued
    obtain ⟨left, total⟩ := pursued
    have beyond := work_leadsOn workflow { crowd with state := state, holder := none } index
      (fun other task apart found => others other task apart found .opened) rfl left
      (workflow.tame_body visit)
    dsimp only
    rw [uninitialized]
    refine ⟨.opened, ?_, beyond.stands, ?_⟩
    · rw [invokedBy_init traced]
      rw [total] at invoked
      exact (invoked.append (.cons (.complete index) (.nil _))).append beyond.leads
    · have traced : state.trace = crowd.state.trace ++ (List.range' first count).map .init := traced
      refine beyond.told.trans ?_
      rw [List.filterMap_append, List.filterMap_append, told_invokedBy traced, ← List.append_assoc,
        ← List.append_assoc, ← traced]
      exact congrArg (· ++ _) (List.append_nil state.trace).symm
  · rw [ended] at pursued
    exact pursued.elim
  · rw [ended] at traced pursued
    obtain ⟨left, begun, later, work, same, total⟩ := pursued
    dsimp only
    rw [invokedBy_init traced]
    refine ⟨.held index (first + count), invoked, ?_, ?_⟩
    · refine ⟨standsAt_set (fun other task apart found => others other task apart found _) ?_, rfl,
        iff_of_false (Bool.eq_false_iff.mp left) (fun opened => nomatch opened), ?_⟩
      · exact ⟨first + count, later, work, visit, rfl, begun, same, total, rfl⟩
      · intro call held
        injection held with _ none
        omega
    · rw [← invokedBy_init traced, told_invokedBy traced]
      exact traced

theorem leadsOn_idle (stands : workflow.Stands crowd gate) :
    workflow.LeadsOn crowd gate [] crowd gate :=
  ⟨.nil gate, stands, (List.append_nil _).symm⟩

private theorem pending_leadsOn (stands : workflow.Stands crowd gate) (visit : Visit Act)
    (free : crowd.holder = none) :
    ∃ last, workflow.LeadsOn crowd gate
      ((if crowd.state.initialized then [] else [.began index]) ++
        crowd.guardMoments index (workflow.call visit).guarded.attempt (workflow.call visit).body)
      (crowd.guard index (workflow.call visit).guarded.attempt (workflow.call visit).body) last := by
  have guarded : (workflow.call visit).guarded = workflow.ensureInit := by
    rcases visit with (request | step) | _ <;> rfl
  rw [guarded]
  cases gate with
  | held call count =>
      have taken := stands.holder
      rw [free] at taken
      cases taken
  | shut =>
      have uninitialized : crowd.state.initialized = false :=
        Bool.eq_false_iff.mpr fun initialized => nomatch stands.initialized.mp initialized
      obtain ⟨count, within, traced, pursued⟩ := advance_begun workflow crowd.state uninitialized
      rw [← Nat.zero_add count] at within pursued
      obtain ⟨last, onward⟩ := guard_leadsOn visit
        (fun other task _ found => (stands.tasks other task found).enter)
        uninitialized within traced pursued
      rw [uninitialized]
      exact ⟨last, .cons (.begin index) onward.leads, onward.stands, onward.told⟩
  | opened =>
      have initialized := stands.initialized.mpr rfl
      have idle : invokedBy index crowd.state crowd.state = ([] : List (Moment Act)) :=
        invokedBy_of_trace (List.append_nil crowd.state.trace).symm
      have beyond := work_leadsOn workflow crowd index
        (fun other task _ found => stands.tasks other task found) free initialized
        (workflow.tame_body visit)
      unfold Crowd.guardMoments Pool.guard
      rw [advance_ensureInit_of_initialized workflow crowd.state initialized]
      dsimp only
      rw [initialized, idle]
      have same : { crowd with state := crowd.state, holder := none } = crowd := by
        rw [← free]
      rw [same]
      exact ⟨.opened, beyond⟩

/-- Every call that is polled leads the gate on. -/
theorem poll_leadsOn (stands : workflow.Stands crowd gate) (index : Nat) :
    ∃ last, workflow.LeadsOn crowd gate (crowd.pollMoments index) (crowd.poll index) last := by
  unfold Crowd.pollMoments Pool.poll
  cases found : crowd.tasks[index]? with
  | none => exact ⟨gate, leadsOn_idle stands⟩
  | some task =>
      have here := stands.tasks index task found
      cases task with
      | pending call =>
          obtain ⟨visit, rfl⟩ := here
          cases free : crowd.holder with
          | none => exact pending_leadsOn stands visit free
          | some holder => exact ⟨gate, leadsOn_idle stands⟩
      | guarding due rest body =>
          dsimp only
          obtain ⟨count, later, work, visit, rfl, begun, rfl, total, rfl⟩ := here
          split
          · have uninitialized : crowd.state.initialized = false :=
              Bool.eq_false_iff.mpr fun initialized => nomatch stands.initialized.mp initialized
            obtain ⟨more, within, traced, pursued⟩ :=
              advance_pursue later count work crowd.state begun uninitialized
            rw [total] at pursued
            exact guard_leadsOn visit
              (fun other task apart found => (stands.tasks other task found).leave apart)
              uninitialized (by omega) traced pursued
          · exact ⟨_, leadsOn_idle stands⟩
      | working due rest =>
          dsimp only
          obtain ⟨rfl, tame⟩ := here
          split
          · exact ⟨.opened, work_leadsOn workflow crowd index
              (fun other task _ found => stands.tasks other task found) stands.holder
              (stands.initialized.mpr rfl) tame⟩
          · exact ⟨_, leadsOn_idle stands⟩
      | finished outcome => exact ⟨gate, leadsOn_idle stands⟩
      | dropped => exact ⟨gate, leadsOn_idle stands⟩

/-! ### Moves and stories -/

private theorem drop_leadsOn (stands : workflow.Stands crowd gate) (index : Nat) :
    ∃ last, workflow.LeadsOn crowd gate (crowd.moments (.drop index)) (crowd.drop index) last := by
  unfold Crowd.moments Pool.drop
  dsimp only
  cases found : crowd.tasks[index]? with
  | none => exact ⟨gate, leadsOn_idle stands⟩
  | some task =>
      have here := stands.tasks index task found
      have others : ∀ other task, other ≠ index → crowd.tasks[other]? = some task →
          workflow.StandsAt gate other task := fun other task _ found =>
        stands.tasks other task found
      have silent : crowd.state.trace =
          crowd.state.trace ++ ([] : List (Moment Act)).filterMap Moment.invocation? :=
        (List.append_nil _).symm
      cases task with
      | pending call =>
          exact ⟨gate, .nil gate, ⟨standsAt_set others trivial, stands.holder, stands.initialized,
            stands.begun⟩, silent⟩
      | guarding due rest body =>
          obtain ⟨count, later, work, visit, rfl, begun, _⟩ := here
          have closed : ¬ crowd.state.initialized = true := fun initialized =>
            nomatch stands.initialized.mp initialized
          refine ⟨.shut, .cons (.drop index count begun) (.nil _), ⟨?_, rfl,
            iff_of_false closed (fun opened => nomatch opened), fun _ held => nomatch held⟩, silent⟩
          exact standsAt_set (fun other task apart found => (others other task apart found).leave
            apart .shut) trivial
      | working due rest =>
          exact ⟨gate, .nil gate, ⟨standsAt_set others trivial, stands.holder, stands.initialized,
            stands.begun⟩, silent⟩
      | finished outcome => exact ⟨gate, leadsOn_idle stands⟩
      | dropped => exact ⟨gate, leadsOn_idle stands⟩

private theorem join_leadsOn (stands : workflow.Stands crowd gate) (visit : Visit Act) :
    workflow.LeadsOn crowd gate [] (crowd.join (workflow.call visit)) gate := by
  refine ⟨.nil gate, ⟨?_, stands.holder, stands.initialized, stands.begun⟩,
    (List.append_nil _).symm⟩
  intro index task found
  change (crowd.tasks ++ [.pending (workflow.call visit)])[index]? = some task at found
  rw [List.getElem?_append] at found
  split at found
  · exact stands.tasks index task found
  · rw [List.getElem?_singleton] at found
    split at found
    · cases found
      exact ⟨visit, rfl⟩
    · cases found

/-- Every move leads the gate on, and the calls stand as it does. -/
theorem moves_on (stands : workflow.Stands crowd gate) (move : Move S Act) :
    ∃ last, workflow.LeadsOn crowd gate (crowd.moments move) (workflow.move crowd move) last := by
  cases move with
  | join visit => exact ⟨gate, join_leadsOn stands visit⟩
  | poll index => exact poll_leadsOn stands index
  | drop index => exact drop_leadsOn stands index
  | elapse duration =>
      exact ⟨gate, .nil gate, ⟨stands.tasks, stands.holder, stands.initialized, stands.begun⟩,
        (List.append_nil _).symm⟩
  | drift state =>
      exact ⟨gate, .nil gate, ⟨stands.tasks, stands.holder, stands.initialized, stands.begun⟩,
        (List.append_nil _).symm⟩

private theorem story_leadsOn (stands : workflow.Stands crowd gate) (moves : List (Move S Act)) :
    ∃ last, workflow.LeadsOn crowd gate (workflow.story crowd moves)
      (moves.foldl workflow.move crowd) last := by
  induction moves generalizing crowd gate with
  | nil => exact ⟨gate, leadsOn_idle stands⟩
  | cons move rest ih =>
      obtain ⟨middle, now⟩ := moves_on stands move
      obtain ⟨last, later⟩ := ih now.stands
      refine ⟨last, now.leads.append later.leads, later.stands, ?_⟩
      rw [story, List.filterMap_append, ← List.append_assoc, ← now.told]
      exact later.told

/-- Whatever calls are in progress at once, however they go on and wherever they are
dropped, what they do is in order: one run over the initial hooks at a time, from the first
on, one that is complete, and nothing else before that. The next call can take its turn as
soon as no run is under way. -/
theorem orderly_story (workflow : Workflow κ S Act) (inner : S) (moves : List (Move S Act)) :
    Orderly workflow.hooks.init.length (workflow.story (.ofCalls [] ⟨inner, false, []⟩) moves)
        (moves.foldl workflow.move (.ofCalls [] ⟨inner, false, []⟩)).state ∧
      ((moves.foldl workflow.move (.ofCalls [] ⟨inner, false, []⟩)).holder = none ↔
        ∀ earlier call later, workflow.story (.ofCalls [] ⟨inner, false, []⟩) moves =
          earlier ++ .began call :: later → ∃ ending, .ended call ending ∈ later) := by
  have start : workflow.Stands (.ofCalls [] ⟨inner, false, []⟩) .shut := by
    refine ⟨?_, rfl, iff_of_false Bool.false_ne_true (fun opened => nomatch opened),
      fun _ held => nomatch held⟩
    intro index task found
    cases found
  obtain ⟨gate, reached⟩ := story_leadsOn start moves
  constructor
  · refine orderly_of_leads reached.leads reached.stands.begun ?_ reached.stands.initialized
    exact reached.told.trans (List.nil_append _)
  · rw [reached.stands.holder]
    exact reached.leads.holder

def slowLogin : Workflow Unit Nat Unit where
  id := 0
  name := "login"
  modules := []
  timeout := .ofSeconds 30
  hooks := { HookTable.empty with init := [⟨0, Proc.sleep 5⟩] }
  transport := fun _ => Proc.throw (.custom "offline")
  adapter? := fun _ => none

example :
    slowLogin.story (.ofCalls [] ⟨0, false, []⟩)
        [.join (.turn (.start .empty)), .join .signOff, .poll 0, .poll 1, .drop 0, .poll 1,
          .elapse 5, .join (.turn (.start .empty)), .poll 2, .poll 1, .poll 2] =
      [.began 0, .invoked 0 (.init 0), .ended 0 .dropped,
        .began 1, .invoked 1 (.init 0), .ended 1 .completed,
        .invoked 2 (.transport .empty)] := rfl

end Workflow

end GuidedLogin
