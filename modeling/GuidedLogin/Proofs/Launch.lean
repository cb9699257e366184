/-
Workflows built in the memory of a process. A launch takes a new cell for what the hooks of
the workflow share and, registration by registration, one for the configuration; the hooks
that a setup yields are installed at work through the handle of their registration. What is
launched mirrors what is built for a workflow that is alone (`Blueprint.launched`).
-/
import GuidedLogin.Proofs.Assembly
import GuidedLogin.Proofs.Memory
import GuidedLogin.Proofs.Mirrored

namespace GuidedLogin

variable {κ : Type} [DecidableEq κ] {Config : κ → Type} {Act Ω : Type}

structure Launch (Config : κ → Type) (Act Ω : Type) where
  hooks : HookTable (Memory Config Act Ω) Act
  lodging : Lodging κ
  memory : Memory Config Act Ω

namespace Launch

def handle (launch : Launch Config Act Ω) (key : κ) : Handle κ :=
  ⟨launch.lodging.number, launch.lodging.cells.length, launch.lodging.home,
    ⟨key, launch.memory.used⟩⟩

/-- Puts the configuration of the next registration into a cell of its own. -/
def configured (launch : Launch Config Act Ω) (registration : Registration Config) :
    Memory Config Act Ω :=
  let handle := launch.handle registration.key
  (launch.memory.newConfig handle.workflow handle.position registration.key registration.config).2

def extended (launch : Launch Config Act Ω) (key : κ) : Lodging κ :=
  { launch.lodging with cells := launch.lodging.cells ++ [(launch.handle key).cell] }

/-- Runs the setup of a module on the configuration of the next registration, and installs
the hooks that come of it. -/
def install (modules : (key : κ) → Module (Config key) Act Ω) (launch : Launch Config Act Ω)
    (registration : Registration Config) : Launch Config Act Ω :=
  let handle := launch.handle registration.key
  let memory := launch.configured registration
  let (hooks, view) := (modules registration.key).setup (handle.view memory)
  { hooks := launch.hooks.installAll handle.position
      (hooks.map (Hook.translate fun work => work.through handle))
    lodging := launch.extended registration.key
    memory := handle.put view (handle.note memory) }

end Launch

structure Tenant (Config : κ → Type) (Act Ω : Type) where
  lodging : Lodging κ
  workflow : Workflow κ (Memory Config Act Ω) Act
  crowd : Crowd (Memory Config Act Ω) Act

namespace Blueprint

def launchFrom (plan : Blueprint Config Act Ω) (number : Nat) (memory : Memory Config Act Ω) :
    Launch Config Act Ω :=
  let (home, memory) := memory.newCommon ⟨∅, plan.outside⟩
  ⟨.empty, ⟨number, home, []⟩, memory⟩

def launch (plan : Blueprint Config Act Ω) (number : Nat) (memory : Memory Config Act Ω) :
    Tenant Config Act Ω × Memory Config Act Ω :=
  let launch := plan.registrations.foldl (Launch.install plan.modules)
    (plan.launchFrom number memory)
  let home := launch.lodging.home
  ({ lodging := launch.lodging
     workflow :=
       { id := plan.id
         name := plan.settings.name
         modules := plan.registrations.map Registration.info
         timeout := plan.settings.timeout
         hooks := launch.hooks
         transport := fun request => (plan.transport request).on (Memory.outsidePart home)
         adapter? := fun action => (plan.adapter? action).map fun adapt =>
           fun request => (adapt request).on (Memory.commonPart home) }
     crowd := .ofCalls [] ⟨launch.memory, false, []⟩ },
   launch.memory)

end Blueprint

namespace Launch

variable {modules : (key : κ) → Module (Config key) Act Ω} {launch : Launch Config Act Ω}
variable {registration : Registration Config} {scope : Scope Config Act Ω}

omit [DecidableEq κ] in
theorem lends_handle (launch : Launch Config Act Ω) (key : κ) {final : Lodging κ}
    (number : final.number = launch.lodging.number) (home : final.home = launch.lodging.home)
    (cells : (launch.extended key).cells <+: final.cells) : final.Lends (launch.handle key) := by
  refine ⟨number.symm, home.symm, ?_⟩
  obtain ⟨more, same⟩ := cells
  rw [← same]
  unfold extended handle
  simp

private theorem housed_configured (housed : Housed launch.lodging launch.memory scope)
    (same : scope.configs registration.key launch.lodging.cells.length = registration.config) :
    Housed (launch.extended registration.key) (launch.configured registration) scope := by
  have new : (launch.configured registration).configs registration.key launch.memory.used =
      registration.config := Scope.setConfig_self ..
  have old (cell : Cell κ) (member : cell ∈ launch.lodging.cells) :
      (launch.configured registration).configs cell.key cell.address =
        launch.memory.configs cell.key cell.address :=
    Scope.setConfig_of_ne _ _ _ _ (Nat.ne_of_lt (housed.within cell member))
  have split (position : Nat) (cell : Cell κ)
      (found : (launch.extended registration.key).cells[position]? = some cell) :
      launch.lodging.cells[position]? = some cell ∨
        position = launch.lodging.cells.length ∧ cell = ⟨registration.key, launch.memory.used⟩ :=
    getElem?_append_singleton_eq_some found
  have before (position : Nat) (cell : Cell κ) (found : launch.lodging.cells[position]? = some cell) :
      position ≠ launch.lodging.cells.length ∧ cell.address ≠ launch.memory.used :=
    ⟨Nat.ne_of_lt (List.getElem?_eq_some_iff.mp found).1,
      Nat.ne_of_lt (housed.within cell (List.mem_of_getElem? found))⟩
  refine ⟨housed.common, ?_, ?_, ?_, ?_, ?_, ?_⟩
  · intro position cell found
    rcases split position cell found with earlier | ⟨rfl, rfl⟩
    · rw [old cell (List.mem_of_getElem? earlier)]
      exact housed.configs position cell earlier
    · exact new.trans same.symm
  · intro position cell found
    rcases split position cell found with earlier | ⟨rfl, rfl⟩
    · rw [old cell (List.mem_of_getElem? earlier)]
      refine (housed.written position cell earlier).append ?_
      intro access member
      rw [List.mem_singleton.mp member]
      unfold Access.writes?
      rw [if_neg]
      rintro ⟨_, _, here⟩
      exact (before position cell earlier).1 here.symm
    · rw [new]
      refine writtenLast_append_singleton.mpr (Or.inl ?_)
      exact if_pos ⟨rfl, rfl, rfl⟩
  · exact housed.coherent.snoc fun read => nomatch read
  · exact Nat.lt_succ_of_lt housed.lodged
  · intro cell member
    rcases List.mem_append.mp member with earlier | here
    · exact Nat.lt_succ_of_lt (housed.within cell earlier)
    · rw [List.mem_singleton.mp here]
      exact Nat.lt_succ_self _
  · intro position other cell twin found foundToo same
    rcases split position cell found with earlier | ⟨rfl, rfl⟩
    · rcases split other twin foundToo with earlierToo | ⟨rfl, rfl⟩
      · exact housed.distinct position other cell twin earlier earlierToo same
      · exact absurd same (before position cell earlier).2
    · rcases split other twin foundToo with earlierToo | ⟨rfl, rfl⟩
      · exact absurd same.symm (before other twin earlierToo).2
      · rfl

/-- What the installation of a registration does is what it does for a workflow that is alone. -/
theorem install_built {building : Workflow.Building Config Act Ω}
    (housed : Housed launch.lodging launch.memory building.scope)
    (same : building.scope.configs registration.key launch.lodging.cells.length =
      registration.config)
    {final : Lodging κ} (lends : final.Lends (launch.handle registration.key))
    (tracks : launch.hooks.Tracks final.tie building.hooks) :
    Housed (launch.install modules registration).lodging
        (launch.install modules registration).memory
        (Workflow.installAt modules launch.lodging.cells.length registration.key building).scope ∧
      (launch.install modules registration).hooks.Tracks final.tie
        (Workflow.installAt modules launch.lodging.cells.length registration.key
          building).hooks := by
  have configured := housed_configured housed same
  have lent : (launch.extended registration.key).Lends (launch.handle registration.key) :=
    launch.lends_handle registration.key rfl rfl (List.prefix_refl _)
  have seen : (launch.handle registration.key).view (launch.configured registration) =
      (Scope.viewPart registration.key launch.lodging.cells.length).get building.scope :=
    configured.view_eq lent
  unfold install Workflow.installAt
  dsimp only
  rw [seen]
  exact ⟨(configured.note lent).put lent _,
    tracks.installAll _ (fun work => Housed.tracks_through lends work) _⟩

variable (modules) in
theorem lodging_foldl (registrations : List (Registration Config)) (launch : Launch Config Act Ω) :
    (registrations.foldl (install modules) launch).lodging.number = launch.lodging.number ∧
      (registrations.foldl (install modules) launch).lodging.home = launch.lodging.home ∧
      ∃ more, (registrations.foldl (install modules) launch).lodging.cells =
          launch.lodging.cells ++ more ∧
        more.map Cell.key = registrations.map Registration.key := by
  induction registrations generalizing launch with
  | nil => exact ⟨rfl, rfl, [], (List.append_nil _).symm, rfl⟩
  | cons registration rest ih =>
      obtain ⟨number, home, more, cells, keys⟩ := ih (launch.install modules registration)
      refine ⟨number, home, (launch.handle registration.key).cell :: more, ?_, ?_⟩
      · rw [List.foldl_cons, cells]
        exact List.append_assoc _ [_] more
      · rw [List.map_cons, keys]
        rfl

variable (modules) in
/-- All setups together do what they do for a workflow that is alone. -/
theorem foldl_built (registrations : List (Registration Config))
    (building : Workflow.Building Config Act Ω)
    (housed : Housed launch.lodging launch.memory building.scope)
    (configured : ∀ (index : Nat) (registration : Registration Config),
      registrations[index]? = some registration →
        building.scope.configs registration.key (launch.lodging.cells.length + index) =
          registration.config)
    {final : Lodging κ} (reached : (registrations.foldl (install modules) launch).lodging = final)
    (tracks : launch.hooks.Tracks final.tie building.hooks) :
    Housed final (registrations.foldl (install modules) launch).memory
        (Workflow.installFrom modules launch.lodging.cells.length registrations building).scope ∧
      (registrations.foldl (install modules) launch).hooks.Tracks final.tie
        (Workflow.installFrom modules launch.lodging.cells.length registrations building).hooks := by
  induction registrations generalizing launch building with
  | nil =>
      subst reached
      exact ⟨housed, tracks⟩
  | cons registration rest ih =>
      have lends : final.Lends (launch.handle registration.key) := by
        obtain ⟨number, home, more, cells, _⟩ :=
          lodging_foldl modules rest (launch.install modules registration)
        subst reached
        exact launch.lends_handle registration.key number home ⟨more, cells.symm⟩
      obtain ⟨housedToo, tracksToo⟩ :=
        install_built housed (configured 0 registration rfl) lends tracks
      have longer : (launch.install modules registration).lodging.cells.length =
          launch.lodging.cells.length + 1 := List.length_append
      have onward := ih _ housedToo ?_ reached tracksToo
      · rw [longer] at onward
        exact onward
      · intro index other found
        rw [longer]
        have place : launch.lodging.cells.length + 1 + index =
            launch.lodging.cells.length + (index + 1) := by omega
        have apart : launch.lodging.cells.length + (index + 1) ≠ launch.lodging.cells.length := by
          omega
        rw [place]
        exact (Scope.setConfig_of_ne building.scope.configs _ _ _ apart).trans
          (configured (index + 1) other found)

def Above (start : Nat) (launch : Launch Config Act Ω) : Prop :=
  start ≤ launch.memory.used ∧ ∀ address, launch.lodging.Owns address → start ≤ address

omit [DecidableEq κ] in
private theorem Above.extended {start : Nat} (above : launch.Above start) (key : κ) (address : Nat)
    (owns : (launch.extended key).Owns address) : start ≤ address := by
  rcases owns with rfl | ⟨cell, member, rfl⟩
  · exact above.2 _ (Or.inl rfl)
  · rcases List.mem_append.mp member with earlier | here
    · exact above.2 _ (Or.inr ⟨cell, earlier, rfl⟩)
    · rw [List.mem_singleton.mp here]
      exact above.1

variable (modules) in
private theorem Above.install {start : Nat} (above : launch.Above start)
    (registration : Registration Config) :
    (launch.install modules registration).Above start ∧
      launch.memory.Spares launch.lodging.number (start ≤ ·)
        (launch.install modules registration).memory := by
  have configured : launch.memory.Spares launch.lodging.number (start ≤ ·)
      (launch.configured registration) := by
    refine ⟨Nat.le_succ _, fun _ _ => rfl, ?_, [_], rfl, ?_⟩
    · intro key address below
      exact Scope.setConfig_of_ne _ _ _ _ fun same => below (same ▸ above.1)
    · intro access member
      rw [List.mem_singleton.mp member]
      rfl
  have lent : (launch.extended registration.key).Lends (launch.handle registration.key) :=
    launch.lends_handle registration.key rfl rfl (List.prefix_refl _)
  have onward : launch.memory.Spares launch.lodging.number (start ≤ ·)
      (launch.install modules registration).memory :=
    configured.trans (((Housed.spares_note lent _).trans (Housed.spares_put lent _ _)).mono
      (above.extended registration.key))
  exact ⟨⟨Nat.le_trans above.1 onward.used, above.extended registration.key⟩, onward⟩

variable (modules) in
private theorem Above.foldl {start : Nat} (above : launch.Above start)
    (registrations : List (Registration Config)) :
    (registrations.foldl (Launch.install modules) launch).Above start ∧
      launch.memory.Spares launch.lodging.number (start ≤ ·)
        (registrations.foldl (Launch.install modules) launch).memory := by
  induction registrations generalizing launch with
  | nil => exact ⟨above, Memory.Spares.refl _ _ _⟩
  | cons registration rest ih =>
      obtain ⟨next, spares⟩ := above.install modules registration
      obtain ⟨last, further⟩ := ih next
      exact ⟨last, spares.trans further⟩

end Launch

namespace Blueprint

structure Launched (plan : Blueprint Config Act Ω) (number : Nat) (before : Memory Config Act Ω)
    (tenant : Tenant Config Act Ω) (after : Memory Config Act Ω) : Prop where
  numbered : tenant.lodging.number = number
  keys : tenant.lodging.cells.map Cell.key = plan.registrations.map Registration.key
  crowd : tenant.crowd = .ofCalls [] ⟨after, false, []⟩
  mirrors : tenant.workflow.Mirrors tenant.lodging.tie plan.workflow
  housed : Housed tenant.lodging after plan.engine.inner
  spares : before.Spares number (before.used ≤ ·) after
  above : ∀ address, tenant.lodging.Owns address → before.used ≤ address

theorem launched (plan : Blueprint Config Act Ω) (number : Nat) {memory : Memory Config Act Ω}
    (coherent : Coherent memory.accesses) :
    plan.Launched number memory (plan.launch number memory).1 (plan.launch number memory).2 := by
  have begun : Housed (plan.launchFrom number memory).lodging (plan.launchFrom number memory).memory
      plan.start := by
    refine ⟨Function.update_self .., ?_, ?_, coherent, Nat.lt_succ_self _, ?_, ?_⟩
    · exact fun _ _ found => nomatch found
    · exact fun _ _ found => nomatch found
    · exact fun _ member => absurd member List.not_mem_nil
    · exact fun _ _ _ _ found => nomatch found
  have taken : memory.Spares number (memory.used ≤ ·) (plan.launchFrom number memory).memory := by
    refine { Memory.Spares.refl number (memory.used ≤ ·) memory with
      used := Nat.le_succ _, commons := ?_ }
    intro address below
    exact Function.update_of_ne (fun same => below (Nat.le_of_eq same.symm)) _ _
  have above : (plan.launchFrom number memory).Above memory.used := by
    refine ⟨Nat.le_succ _, ?_⟩
    rintro address (rfl | ⟨cell, member, _⟩)
    · exact Nat.le_refl _
    · exact absurd member List.not_mem_nil
  obtain ⟨same, _, more, cells, keys⟩ :=
    Launch.lodging_foldl plan.modules plan.registrations (plan.launchFrom number memory)
  obtain ⟨last, spares⟩ := above.foldl plan.modules plan.registrations
  obtain ⟨housed, tracks⟩ := Launch.foldl_built plan.modules plan.registrations
    ⟨.empty, plan.start⟩ begun
    (by
      intro index registration found
      rw [show (plan.launchFrom number memory).lodging.cells.length + index = index from
        Nat.zero_add index]
      exact configsOf_registered found)
    rfl HookTable.tracks_empty
  refine ⟨same, ?_, rfl, ⟨rfl, rfl, tracks, ?_, ?_⟩, housed, taken.trans spares, last.2⟩
  · exact (congrArg (List.map Cell.key) cells).trans keys
  · exact fun request => Housed.tracks_outside _ (plan.transport request)
  · intro action
    change Option.Rel _ ((plan.adapter? action).map _) ((plan.adapter? action).map _)
    cases plan.adapter? action with
    | none => exact .none
    | some adapt => exact .some fun request => Housed.tracks_common _ (adapt request)

end Blueprint

end GuidedLogin
