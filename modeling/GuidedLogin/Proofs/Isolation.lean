/-
Workflows side by side in one process. They are built in one memory, one after another and
at any time, maybe of the same modules; their calls are made, go on, wait and are dropped in
any order, time passes, and snapshots of configurations are taken (`Occurrence`). Whatever
happens, every workflow is what it is alone with its own calls (`Apart`), and every
registration sees the configuration that its own hooks have left (`Process.isolated_run`).
-/
import GuidedLogin.Proofs.Launch

namespace GuidedLogin

variable {κ : Type} [DecidableEq κ] {Config : κ → Type} {Act Ω : Type}

inductive Occurrence (Config : κ → Type) (Act Ω : Type) where
  | launch (plan : Blueprint Config Act Ω)
  | act (number : Nat) (deed : Deed Act)
  | elapse (duration : Nat)
  | snapshot (number position : Nat)

namespace Tenant

/-- The calls to a workflow, in the memory as others have left it. -/
def crowdIn (tenant : Tenant Config Act Ω) (memory : Memory Config Act Ω) :
    Crowd (Memory Config Act Ω) Act :=
  tenant.workflow.move tenant.crowd (.drift memory)

def config? (tenant : Tenant Config Act Ω) (memory : Memory Config Act Ω) (position : Nat) :
    Option (Sigma Config) :=
  tenant.lodging.cells[position]?.map fun cell => ⟨cell.key, memory.configs cell.key cell.address⟩

end Tenant

structure Process (Config : κ → Type) (Act Ω : Type) where
  memory : Memory Config Act Ω
  tenants : List (Tenant Config Act Ω)
  snapshots : List (Sigma Config)

namespace Process

/-- A process without workflows. What its memory holds is left open. -/
def ofMemory (memory : Memory Config Act Ω) : Process Config Act Ω :=
  ⟨{ memory with accesses := [] }, [], []⟩

def step (process : Process Config Act Ω) : Occurrence Config Act Ω → Process Config Act Ω
  | .launch plan =>
      let (tenant, memory) := plan.launch process.tenants.length process.memory
      { process with memory := memory, tenants := process.tenants ++ [tenant] }
  | .act number deed =>
      match process.tenants[number]? with
      | none => process
      | some tenant =>
          let crowd := tenant.workflow.move (tenant.crowdIn process.memory) deed.move
          { process with
            memory := crowd.state.inner
            tenants := process.tenants.set number { tenant with crowd := crowd } }
  | .elapse duration =>
      { process with
        tenants := process.tenants.map fun tenant =>
          { tenant with crowd := tenant.workflow.move tenant.crowd (.elapse duration) } }
  | .snapshot number position =>
      { process with
        snapshots := process.snapshots ++
          (process.tenants[number]?.bind (·.config? process.memory position)).toList }

def run (process : Process Config Act Ω) (occurrences : List (Occurrence Config Act Ω)) :
    Process Config Act Ω :=
  occurrences.foldl step process

end Process

structure Alone (Config : κ → Type) (Act Ω : Type) where
  plan : Blueprint Config Act Ω
  moves : List (Move (Scope Config Act Ω) Act)

namespace Alone

def crowd (alone : Alone Config Act Ω) : Crowd (Scope Config Act Ω) Act :=
  alone.moves.foldl alone.plan.workflow.move (.ofCalls [] alone.plan.engine)

def after (alone : Alone Config Act Ω) (move : Move (Scope Config Act Ω) Act) :
    Alone Config Act Ω :=
  { alone with moves := alone.moves ++ [move] }

def config? (alone : Alone Config Act Ω) (position : Nat) : Option (Sigma Config) :=
  alone.plan.registrations[position]?.map fun registration =>
    ⟨registration.key, alone.crowd.state.inner.configs registration.key position⟩

theorem crowd_after (alone : Alone Config Act Ω) (move : Move (Scope Config Act Ω) Act) :
    (alone.after move).crowd = alone.plan.workflow.move alone.crowd move := by
  unfold crowd after
  rw [List.foldl_append]
  rfl

end Alone

/-- The workflows of a process, each with what concerns it and nothing else, and the
snapshots that are taken of them then. -/
structure Apart (Config : κ → Type) (Act Ω : Type) where
  workflows : List (Alone Config Act Ω)
  snapshots : List (Sigma Config)

namespace Apart

def step (apart : Apart Config Act Ω) : Occurrence Config Act Ω → Apart Config Act Ω
  | .launch plan => { apart with workflows := apart.workflows ++ [⟨plan, []⟩] }
  | .act number deed =>
      { apart with workflows := apart.workflows.modify number (·.after deed.move) }
  | .elapse duration =>
      { apart with workflows := apart.workflows.map (·.after (.elapse duration)) }
  | .snapshot number position =>
      { apart with
        snapshots := apart.snapshots ++
          (apart.workflows[number]?.bind (·.config? position)).toList }

def ofOccurrences (occurrences : List (Occurrence Config Act Ω)) : Apart Config Act Ω :=
  occurrences.foldl step ⟨[], []⟩

end Apart

structure Tenant.SameAs (memory : Memory Config Act Ω) (tenant : Tenant Config Act Ω)
    (alone : Alone Config Act Ω) : Prop where
  outcomes : tenant.crowd.tasks.map Task.outcome? = alone.crowd.tasks.map Task.outcome?
  trace : tenant.crowd.state.trace = alone.crowd.state.trace
  initialized : tenant.crowd.state.initialized = alone.crowd.state.initialized
  common : memory.commons tenant.lodging.home = alone.crowd.state.inner.common
  configs : ∀ position, tenant.config? memory position = alone.config? position

structure Process.Isolated (process : Process Config Act Ω) (apart : Apart Config Act Ω) :
    Prop where
  count : process.tenants.length = apart.workflows.length
  same : ∀ (number : Nat) (tenant : Tenant Config Act Ω) (alone : Alone Config Act Ω),
    process.tenants[number]? = some tenant → apart.workflows[number]? = some alone →
      tenant.SameAs process.memory alone
  coherent : Coherent process.memory.accesses
  written : ∀ (number position : Nat) (tenant : Tenant Config Act Ω) (config : Sigma Config),
    process.tenants[number]? = some tenant →
      tenant.config? process.memory position = some config →
        WrittenLast (Access.writes? number position) process.memory.accesses config
  snapshots : process.snapshots = apart.snapshots
  kept : ∀ occurrence, process.snapshots <+: (process.step occurrence).snapshots

/-! ### One workflow -/

structure Tenant.Twins (memory : Memory Config Act Ω) (tenant : Tenant Config Act Ω)
    (alone : Alone Config Act Ω) : Prop where
  mirrors : tenant.workflow.Mirrors tenant.lodging.tie alone.plan.workflow
  keys : tenant.lodging.cells.map Cell.key = alone.plan.registrations.map Registration.key
  inStep : (tenant.crowdIn memory).InStep tenant.lodging.tie.engine alone.crowd

namespace Tenant.Twins

variable {memory after : Memory Config Act Ω} {tenant : Tenant Config Act Ω}
variable {alone : Alone Config Act Ω}

theorem housed (twins : tenant.Twins memory alone) :
    Housed tenant.lodging memory alone.crowd.state.inner :=
  twins.inStep.state.inner

theorem config?_eq (twins : tenant.Twins memory alone) (position : Nat) :
    tenant.config? memory position = alone.config? position := by
  have keys := congrArg (·[position]?) twins.keys
  simp only [List.getElem?_map] at keys
  unfold Tenant.config? Alone.config?
  cases found : tenant.lodging.cells[position]? with
  | none =>
      rw [found] at keys
      cases registered : alone.plan.registrations[position]? with
      | none => rfl
      | some registration =>
          rw [registered] at keys
          cases keys
  | some cell =>
      rw [found] at keys
      cases registered : alone.plan.registrations[position]? with
      | none =>
          rw [registered] at keys
          cases keys
      | some registration =>
          rw [registered] at keys
          have key : cell.key = registration.key := Option.some.inj keys
          rw [Option.map_some, Option.map_some, twins.housed.configs position cell found, key]

private theorem sameAs (twins : tenant.Twins memory alone) : tenant.SameAs memory alone where
  outcomes := twins.inStep.outcomes
  trace := twins.inStep.state.trace
  initialized := twins.inStep.state.initialized
  common := twins.housed.common
  configs := twins.config?_eq

theorem spared (twins : tenant.Twins memory alone) {number : Nat} {owns : Nat → Prop}
    (spares : memory.Spares number owns after) (another : tenant.lodging.number ≠ number)
    (apart : ∀ address, tenant.lodging.Owns address → ¬ owns address)
    (coherent : Coherent after.accesses) : tenant.Twins after alone :=
  { twins with
    inStep := { twins.inStep with
      state := { twins.inStep.state with
        inner := twins.housed.spared spares another apart coherent } } }

private theorem act (twins : tenant.Twins memory alone) (deed : Deed Act) :
    let crowd := tenant.workflow.move (tenant.crowdIn memory) deed.move
    memory.Spares tenant.lodging.number tenant.lodging.Owns crowd.state.inner ∧
      Tenant.Twins crowd.state.inner { tenant with crowd := crowd } (alone.after deed.move) := by
  obtain ⟨spares, inStep⟩ := twins.mirrors.move twins.inStep deed
  refine ⟨spares, twins.mirrors, twins.keys, ?_⟩
  rw [Alone.crowd_after]
  exact inStep

private theorem elapse (twins : tenant.Twins memory alone) (duration : Nat) :
    Tenant.Twins memory
      { tenant with crowd := tenant.workflow.move tenant.crowd (.elapse duration) }
      (alone.after (.elapse duration)) := by
  refine ⟨twins.mirrors, twins.keys, ?_⟩
  rw [Alone.crowd_after]
  exact { twins.inStep with now := congrArg (· + duration) twins.inStep.now }

private theorem launch (plan : Blueprint Config Act Ω) (number : Nat)
    (coherent : Coherent memory.accesses) :
    Tenant.Twins (plan.launch number memory).2 (plan.launch number memory).1 ⟨plan, []⟩ := by
  have launched := plan.launched number coherent
  refine ⟨launched.mirrors, launched.keys, .nil, rfl, rfl, launched.housed, rfl, rfl⟩

end Tenant.Twins

/-! ### All of them -/

namespace Process

theorem step_act_none {process : Process Config Act Ω} {number : Nat} (deed : Deed Act)
    (absent : process.tenants[number]? = none) : process.step (.act number deed) = process := by
  simp only [step, absent]

theorem step_act {process : Process Config Act Ω} {number : Nat} {tenant : Tenant Config Act Ω}
    (deed : Deed Act) (found : process.tenants[number]? = some tenant) :
    process.step (.act number deed) =
      let crowd := tenant.workflow.move (tenant.crowdIn process.memory) deed.move
      ⟨crowd.state.inner, process.tenants.set number { tenant with crowd := crowd },
        process.snapshots⟩ := by
  simp only [step, found]

private theorem snapshots_act (process : Process Config Act Ω) (number : Nat) (deed : Deed Act) :
    (process.step (.act number deed)).snapshots = process.snapshots := by
  cases found : process.tenants[number]? with
  | none => exact congrArg Process.snapshots (step_act_none deed found)
  | some tenant => exact (congrArg Process.snapshots (step_act deed found)).trans rfl

structure Stands (process : Process Config Act Ω) (apart : Apart Config Act Ω) : Prop where
  count : process.tenants.length = apart.workflows.length
  twins : ∀ (number : Nat) (tenant : Tenant Config Act Ω) (alone : Alone Config Act Ω),
    process.tenants[number]? = some tenant → apart.workflows[number]? = some alone →
      tenant.Twins process.memory alone
  numbered : ∀ (number : Nat) (tenant : Tenant Config Act Ω),
    process.tenants[number]? = some tenant → tenant.lodging.number = number
  disjoint : ∀ (number other : Nat) (tenant another : Tenant Config Act Ω),
    process.tenants[number]? = some tenant → process.tenants[other]? = some another →
      number ≠ other → ∀ address, tenant.lodging.Owns address → ¬ another.lodging.Owns address
  coherent : Coherent process.memory.accesses
  snapshots : process.snapshots = apart.snapshots

namespace Stands

variable {process : Process Config Act Ω} {apart : Apart Config Act Ω}

theorem exists_alone (stands : process.Stands apart) {number : Nat} {tenant : Tenant Config Act Ω}
    (found : process.tenants[number]? = some tenant) :
    ∃ alone, apart.workflows[number]? = some alone := by
  have within := (List.getElem?_eq_some_iff.mp found).1
  rw [stands.count] at within
  exact ⟨_, List.getElem?_eq_getElem within⟩

private theorem launch (stands : process.Stands apart) (plan : Blueprint Config Act Ω) :
    (process.step (.launch plan)).Stands (apart.step (.launch plan)) := by
  have launched := plan.launched process.tenants.length stands.coherent
  have fresh := Tenant.Twins.launch plan process.tenants.length stands.coherent
  change Stands ⟨(plan.launch process.tenants.length process.memory).2, process.tenants ++
    [(plan.launch process.tenants.length process.memory).1], process.snapshots⟩
    ⟨apart.workflows ++ [⟨plan, []⟩], apart.snapshots⟩
  generalize (plan.launch process.tenants.length process.memory).1 = tenant at launched fresh ⊢
  generalize (plan.launch process.tenants.length process.memory).2 = memory at launched fresh ⊢
  have split (number : Nat) (other : Tenant Config Act Ω)
      (found : (process.tenants ++ [tenant])[number]? = some other) :
      process.tenants[number]? = some other ∨
        number = process.tenants.length ∧ other = tenant :=
    getElem?_append_singleton_eq_some found
  have old (number : Nat) (other : Tenant Config Act Ω)
      (found : process.tenants[number]? = some other) :
      number < process.tenants.length ∧ ∀ address, other.lodging.Owns address →
        address < process.memory.used := by
    obtain ⟨alone, placed⟩ := stands.exists_alone found
    exact ⟨(List.getElem?_eq_some_iff.mp found).1, fun _ owns =>
      (stands.twins number other alone found placed).housed.lt_used owns⟩
  have coherent : Coherent memory.accesses := fresh.housed.coherent
  refine ⟨?_, ?_, ?_, ?_, coherent, stands.snapshots⟩
  · simp [stands.count]
  · intro number other alone found placed
    rcases split number other found with earlier | ⟨rfl, rfl⟩
    · obtain ⟨within, below⟩ := old number other earlier
      rw [List.getElem?_append_left (by rwa [← stands.count])] at placed
      refine (stands.twins number other alone earlier placed).spared launched.spares ?_ ?_ coherent
      · rw [stands.numbered number other earlier]
        exact Nat.ne_of_lt within
      · exact fun address owns => Nat.not_le_of_lt (below address owns)
    · rw [stands.count, List.getElem?_append_right (Nat.le_refl _), Nat.sub_self] at placed
      cases placed
      exact fresh
  · intro number other found
    rcases split number other found with earlier | ⟨rfl, rfl⟩
    · exact stands.numbered number other earlier
    · exact launched.numbered
  · intro number twin other another found foundToo apart address owns ownsToo
    rcases split number other found with earlier | ⟨rfl, rfl⟩
    · rcases split twin another foundToo with earlierToo | ⟨rfl, rfl⟩
      · exact stands.disjoint number twin other another earlier earlierToo apart address owns ownsToo
      · exact Nat.not_le_of_lt ((old number other earlier).2 address owns)
          (launched.above address ownsToo)
    · rcases split twin another foundToo with earlierToo | ⟨rfl, rfl⟩
      · exact Nat.not_le_of_lt ((old twin another earlierToo).2 address ownsToo)
          (launched.above address owns)
      · exact apart rfl

private theorem act (stands : process.Stands apart) (number : Nat) (deed : Deed Act) :
    (process.step (.act number deed)).Stands (apart.step (.act number deed)) := by
  change (process.step (.act number deed)).Stands
    ⟨apart.workflows.modify number (·.after deed.move), apart.snapshots⟩
  cases found : process.tenants[number]? with
  | none =>
      have beyond : apart.workflows.length ≤ number := by
        rw [← stands.count]
        exact List.getElem?_eq_none_iff.mp found
      rw [step_act_none deed found, List.modify_eq_self beyond]
      exact stands
  | some tenant =>
      obtain ⟨alone, placed⟩ := stands.exists_alone found
      obtain ⟨spares, twins⟩ := (stands.twins number tenant alone found placed).act deed
      rw [step_act deed found]
      generalize tenant.workflow.move (tenant.crowdIn process.memory) deed.move = crowd
        at spares twins ⊢
      have coherent : Coherent crowd.state.inner.accesses := twins.housed.coherent
      have lodged (other : Nat) (changed : Tenant Config Act Ω)
          (here : (process.tenants.set number { tenant with crowd := crowd })[other]? =
            some changed) :
          ∃ before, process.tenants[other]? = some before ∧ before.lodging = changed.lodging ∧
            (other ≠ number → before = changed) := by
        rw [List.getElem?_set] at here
        split at here
        · rename_i same
          subst same
          split at here
          · cases here
            exact ⟨tenant, found, rfl, fun apart => absurd rfl apart⟩
          · cases here
        · exact ⟨changed, here, rfl, fun _ => rfl⟩
      refine ⟨?_, ?_, ?_, ?_, coherent, stands.snapshots⟩
      · simp [stands.count]
      · intro other changed after here there
        by_cases same : other = number
        · subst same
          rw [List.getElem?_set_self (List.getElem?_eq_some_iff.mp found).1] at here
          rw [List.getElem?_modify_eq, placed] at there
          cases here
          cases there
          exact twins
        · obtain ⟨before, earlier, _, unchanged⟩ := lodged other changed here
          obtain rfl := unchanged same
          rw [List.getElem?_modify_ne _ _ (Ne.symm same)] at there
          refine (stands.twins other before after earlier there).spared spares ?_ ?_ coherent
          · rw [stands.numbered other before earlier, stands.numbered number tenant found]
            exact same
          · exact stands.disjoint other number before tenant earlier found same
      · intro other changed here
        obtain ⟨before, earlier, same, _⟩ := lodged other changed here
        rw [← same]
        exact stands.numbered other before earlier
      · intro other twin changed changedToo here there
        obtain ⟨before, earlier, same, _⟩ := lodged other changed here
        obtain ⟨beforeToo, earlierToo, sameToo, _⟩ := lodged twin changedToo there
        rw [← same, ← sameToo]
        exact stands.disjoint other twin before beforeToo earlier earlierToo

private theorem elapse (stands : process.Stands apart) (duration : Nat) :
    (process.step (.elapse duration)).Stands (apart.step (.elapse duration)) := by
  unfold step Apart.step
  have before (number : Nat) (later : Tenant Config Act Ω)
      (found : (process.tenants.map fun tenant =>
        { tenant with crowd := tenant.workflow.move tenant.crowd (.elapse duration) })[number]? =
          some later) :
      ∃ tenant, process.tenants[number]? = some tenant ∧
        { tenant with crowd := tenant.workflow.move tenant.crowd (.elapse duration) } = later := by
    rw [List.getElem?_map] at found
    exact Option.map_eq_some_iff.mp found
  refine ⟨?_, ?_, ?_, ?_, stands.coherent, stands.snapshots⟩
  · simp [stands.count]
  · intro number later alone found placed
    obtain ⟨tenant, earlier, rfl⟩ := before number later found
    rw [List.getElem?_map] at placed
    obtain ⟨first, before, rfl⟩ := Option.map_eq_some_iff.mp placed
    exact (stands.twins number tenant first earlier before).elapse duration
  · intro number later found
    obtain ⟨tenant, earlier, rfl⟩ := before number later found
    exact stands.numbered number tenant earlier
  · intro number other later laterToo found foundToo
    obtain ⟨tenant, earlier, rfl⟩ := before number later found
    obtain ⟨another, earlierToo, rfl⟩ := before other laterToo foundToo
    exact stands.disjoint number other tenant another earlier earlierToo

private theorem snapshot (stands : process.Stands apart) (number position : Nat) :
    (process.step (.snapshot number position)).Stands (apart.step (.snapshot number position)) := by
  refine { stands with snapshots := ?_ }
  change process.snapshots ++ _ = apart.snapshots ++ _
  rw [stands.snapshots]
  congr 2
  cases found : process.tenants[number]? with
  | none =>
      rw [List.getElem?_eq_none_iff, stands.count, ← List.getElem?_eq_none_iff] at found
      rw [found]
      rfl
  | some tenant =>
      obtain ⟨alone, placed⟩ := stands.exists_alone found
      rw [placed]
      exact (stands.twins number tenant alone found placed).config?_eq position

private theorem step (stands : process.Stands apart) (occurrence : Occurrence Config Act Ω) :
    (process.step occurrence).Stands (apart.step occurrence) := by
  cases occurrence with
  | launch plan => exact stands.launch plan
  | act number deed => exact stands.act number deed
  | elapse duration => exact stands.elapse duration
  | snapshot number position => exact stands.snapshot number position

private theorem run (stands : process.Stands apart) (occurrences : List (Occurrence Config Act Ω)) :
    (process.run occurrences).Stands (occurrences.foldl Apart.step apart) := by
  induction occurrences generalizing process apart with
  | nil => exact stands
  | cons occurrence rest ih => exact ih (stands.step occurrence)

private theorem isolated (stands : process.Stands apart) : process.Isolated apart where
  count := stands.count
  same number tenant alone found placed := (stands.twins number tenant alone found placed).sameAs
  coherent := stands.coherent
  written := by
    intro number position tenant config found configured
    obtain ⟨alone, placed⟩ := stands.exists_alone found
    obtain ⟨cell, here, rfl⟩ := Option.map_eq_some_iff.mp configured
    have told := (stands.twins number tenant alone found placed).housed.written position cell here
    rwa [stands.numbered number tenant found] at told
  snapshots := stands.snapshots
  kept := by
    intro occurrence
    cases occurrence with
    | launch plan => exact List.prefix_refl _
    | act number deed => exact ⟨[], by rw [List.append_nil, snapshots_act]⟩
    | elapse duration => exact List.prefix_refl _
    | snapshot number position => exact List.prefix_append _ _

end Stands

/-- Whatever workflows are built in a process, and whatever is done to them in which order,
each is what it is alone with its own calls, and a registration never sees any configuration
but its own. -/
theorem isolated_run (memory : Memory Config Act Ω)
    (occurrences : List (Occurrence Config Act Ω)) :
    ((ofMemory memory).run occurrences).Isolated (Apart.ofOccurrences occurrences) := by
  have begun : (ofMemory memory).Stands ⟨[], []⟩ := by
    refine ⟨rfl, ?_, ?_, ?_, ?_, rfl⟩
    · exact fun _ _ _ found => nomatch found
    · exact fun _ _ found => nomatch found
    · exact fun _ _ _ _ found => nomatch found
    · intro earlier access later same
      simp [ofMemory] at same
  exact (begun.run occurrences).isolated

/-- A workflow with two registrations of a module that counts the flows begun. -/
def counting (first second : Nat) : Blueprint (fun _ : Unit => Nat) Unit Unit where
  modules := fun _ => .ofHooks "counter" 0 [.start fun request =>
    (Proc.modify fun view => { view with config := view.config + 1 }).bind fun _ => .done request]
  settings := ⟨"login", [⟨(), first, 10, .replace⟩, ⟨(), second, 10, .append⟩], .ofSeconds 15⟩
  id := 0
  transport := fun _ => Proc.throw (.custom "offline")
  adapter? := fun _ => none
  outside := ()

example :
    ((ofMemory ⟨fun _ => ⟨∅, ()⟩, fun _ _ => 3, 7, []⟩).run
        [.launch (counting 0 10), .launch (counting 20 30), .act 0 (.call (.turn (.start .empty))),
          .snapshot 0 1, .act 0 (.poll 0), .snapshot 0 0, .snapshot 0 1, .snapshot 1 1]).snapshots =
      [⟨(), 10⟩, ⟨(), 1⟩, ⟨(), 11⟩, ⟨(), 30⟩] := rfl

end Process

end GuidedLogin
