/-
The memory of a process with workflows in it. Configurations, and what the hooks of a
workflow share (the shared values, and its transport and storages), lie in cells that are
reached by their addresses, and nothing but the addresses that hooks have been given keeps
workflows or registrations apart. Every access to a configuration is on record. Work through
a handle keeps in step with work on the state of a workflow that is alone
(`Housed.tracks_through`).
-/
import GuidedLogin.Proofs.InStep
import GuidedLogin.Proofs.Installed
import GuidedLogin.Proofs.LastWrite
import Mathlib.Logic.Function.Basic

namespace GuidedLogin

variable {κ : Type} {Config : κ → Type} {Act Ω α : Type}

structure Access (Config : κ → Type) where
  workflow : Nat
  position : Nat
  written : Bool
  config : Sigma Config

/-- The configuration that an access leaves a registration with, if it changes that. -/
def Access.writes? (workflow position : Nat) (access : Access Config) :
    Option (Option (Sigma Config)) :=
  if access.written = true ∧ access.workflow = workflow ∧ access.position = position then
    some (some access.config)
  else none

/-- Every configuration that was read is the one last written for that registration. -/
def Coherent (accesses : List (Access Config)) : Prop :=
  ∀ earlier access later, accesses = earlier ++ access :: later → access.written = false →
    WrittenLast (Access.writes? access.workflow access.position) earlier access.config

/-- Cells by their addresses. Those from `used` on have not been given to anything. -/
structure Memory (Config : κ → Type) (Act Ω : Type) where
  commons : Nat → Common Act Ω
  configs : (key : κ) → Nat → Config key
  used : Nat
  accesses : List (Access Config)

structure Cell (κ : Type) where
  key : κ
  address : Nat

structure Handle (κ : Type) where
  workflow : Nat
  position : Nat
  home : Nat
  cell : Cell κ

namespace Handle

variable (handle : Handle κ)

def view (memory : Memory Config Act Ω) : View (Config handle.cell.key) Act Ω :=
  ⟨memory.configs handle.cell.key handle.cell.address, memory.commons handle.home⟩

def access (written : Bool) (config : Config handle.cell.key) : Access Config :=
  ⟨handle.workflow, handle.position, written, ⟨handle.cell.key, config⟩⟩

def note (memory : Memory Config Act Ω) : Memory Config Act Ω :=
  { memory with
    accesses := memory.accesses ++ [handle.access false (handle.view memory).config] }

def put [DecidableEq κ] (view : View (Config handle.cell.key) Act Ω)
    (memory : Memory Config Act Ω) : Memory Config Act Ω :=
  { memory with
    commons := Function.update memory.commons handle.home view.common
    configs := Scope.setConfig memory.configs handle.cell.key handle.cell.address view.config
    accesses := memory.accesses ++ [handle.access true view.config] }

end Handle

/-- Work on what the hooks of a registration see as work on the memory. -/
def Proc.through [DecidableEq κ] (handle : Handle κ) :
    Proc (View (Config handle.cell.key) Act Ω) α → Proc (Memory Config Act Ω) α
  | .done value => .done value
  | .fail fault => .fail fault
  | .read next => .read fun memory =>
      .write (handle.note memory) ((next (handle.view memory)).through handle)
  | .write view next => .read fun memory => .write (handle.put view memory) (next.through handle)
  | .wait duration next => .wait duration (next.through handle)

namespace Memory

def commonPart (home : Nat) : Part (Memory Config Act Ω) (Common Act Ω) where
  get memory := memory.commons home
  set common memory := { memory with commons := Function.update memory.commons home common }

def outsidePart (home : Nat) : Part (Memory Config Act Ω) Ω where
  get memory := (memory.commons home).outside
  set outside memory :=
    { memory with
      commons := Function.update memory.commons home
        { memory.commons home with outside := outside } }

def newCommon (memory : Memory Config Act Ω) (common : Common Act Ω) :
    Nat × Memory Config Act Ω :=
  (memory.used,
    { memory with
      commons := Function.update memory.commons memory.used common
      used := memory.used + 1 })

def newConfig [DecidableEq κ] (memory : Memory Config Act Ω) (workflow position : Nat) (key : κ)
    (config : Config key) : Nat × Memory Config Act Ω :=
  (memory.used,
    { memory with
      configs := Scope.setConfig memory.configs key memory.used config
      used := memory.used + 1
      accesses := memory.accesses ++ [⟨workflow, position, true, ⟨key, config⟩⟩] })

end Memory

structure Lodging (κ : Type) where
  number : Nat
  home : Nat
  cells : List (Cell κ)

def Lodging.Owns (lodging : Lodging κ) (address : Nat) : Prop :=
  address = lodging.home ∨ ∃ cell ∈ lodging.cells, cell.address = address

structure Memory.Spares (number : Nat) (owns : Nat → Prop) (before after : Memory Config Act Ω) :
    Prop where
  used : before.used ≤ after.used
  commons : ∀ address, ¬ owns address → after.commons address = before.commons address
  configs : ∀ key address, ¬ owns address → after.configs key address = before.configs key address
  accesses : ∃ fresh, after.accesses = before.accesses ++ fresh ∧
    ∀ access ∈ fresh, access.workflow = number

structure Housed (lodging : Lodging κ) (memory : Memory Config Act Ω)
    (scope : Scope Config Act Ω) : Prop where
  common : memory.commons lodging.home = scope.common
  configs : ∀ (position : Nat) (cell : Cell κ), lodging.cells[position]? = some cell →
    memory.configs cell.key cell.address = scope.configs cell.key position
  written : ∀ (position : Nat) (cell : Cell κ), lodging.cells[position]? = some cell →
    WrittenLast (Access.writes? lodging.number position) memory.accesses
      ⟨cell.key, memory.configs cell.key cell.address⟩
  coherent : Coherent memory.accesses
  lodged : lodging.home < memory.used
  within : ∀ cell ∈ lodging.cells, cell.address < memory.used
  distinct : ∀ (position other : Nat) (cell twin : Cell κ),
    lodging.cells[position]? = some cell → lodging.cells[other]? = some twin →
      cell.address = twin.address → position = other

namespace Memory.Spares

variable {number : Nat} {owns : Nat → Prop} {first second third : Memory Config Act Ω}

theorem refl (number : Nat) (owns : Nat → Prop) (memory : Memory Config Act Ω) :
    memory.Spares number owns memory :=
  ⟨Nat.le_refl _, fun _ _ => rfl, fun _ _ _ => rfl, [], (List.append_nil _).symm,
    fun _ member => absurd member List.not_mem_nil⟩

theorem trans (earlier : first.Spares number owns second) (later : second.Spares number owns third) :
    first.Spares number owns third := by
  obtain ⟨fresh, told, own⟩ := earlier.accesses
  obtain ⟨more, toldMore, ownMore⟩ := later.accesses
  refine ⟨Nat.le_trans earlier.used later.used, ?_, ?_, fresh ++ more, ?_, ?_⟩
  · intro address apart
    exact (later.commons address apart).trans (earlier.commons address apart)
  · intro key address apart
    exact (later.configs key address apart).trans (earlier.configs key address apart)
  · rw [toldMore, told, List.append_assoc]
  · intro access member
    exact (List.mem_append.mp member).elim (own access) (ownMore access)

theorem mono {further : Nat → Prop} (spares : first.Spares number owns second)
    (grows : ∀ address, owns address → further address) : first.Spares number further second :=
  { spares with
    commons := fun address apart => spares.commons address (mt (grows address) apart)
    configs := fun key address apart => spares.configs key address (mt (grows address) apart) }

end Memory.Spares

namespace Lodging

variable {lodging : Lodging κ}

/-- A workflow in memory, and the same workflow alone. -/
def tie (lodging : Lodging κ) : Tie (Memory Config Act Ω) (Scope Config Act Ω) where
  related := Housed lodging
  spares := Memory.Spares lodging.number lodging.Owns
  refl := Memory.Spares.refl lodging.number lodging.Owns
  trans := Memory.Spares.trans

structure Lends (lodging : Lodging κ) (handle : Handle κ) : Prop where
  workflow : handle.workflow = lodging.number
  home : handle.home = lodging.home
  cell : lodging.cells[handle.position]? = some handle.cell

end Lodging

/-! ### The record -/

theorem Coherent.snoc {accesses : List (Access Config)} (coherent : Coherent accesses)
    {access : Access Config} (told : access.written = false →
      WrittenLast (Access.writes? access.workflow access.position) accesses access.config) :
    Coherent (accesses ++ [access]) := by
  intro earlier other later same read
  rcases append_singleton_eq same with ⟨_, rfl, rfl⟩ | ⟨between, _, within⟩
  · exact told read
  · exact coherent earlier other between within read

theorem WrittenLast.append {β γ : Type} {writes : γ → Option (Option β)} {items more : List γ}
    {value : β} (held : WrittenLast writes items value)
    (idle : ∀ item ∈ more, writes item = none) : WrittenLast writes (items ++ more) value := by
  obtain ⟨earlier, item, later, rfl, wrote, others⟩ := held
  refine ⟨earlier, item, later ++ more, by simp, wrote, ?_⟩
  intro other member
  exact (List.mem_append.mp member).elim (others other) (idle other)

namespace Handle

variable {handle : Handle κ} {workflow position : Nat}

private theorem writes?_read (config : Config handle.cell.key) :
    (handle.access false config).writes? workflow position = none := by
  simp [Access.writes?, access]

private theorem writes?_self (config : Config handle.cell.key) :
    (handle.access true config).writes? handle.workflow handle.position =
      some (some ⟨handle.cell.key, config⟩) := by
  simp [Access.writes?, access]

private theorem writes?_of_ne (config : Config handle.cell.key)
    (apart : handle.position ≠ position) :
    (handle.access true config).writes? workflow position = none := by
  simp [Access.writes?, access, apart]

end Handle

/-! ### A workflow in its cells -/

namespace Housed

variable {lodging : Lodging κ} {memory after : Memory Config Act Ω} {scope : Scope Config Act Ω}
variable {handle : Handle κ}

theorem spared (housed : Housed lodging memory scope) {number : Nat} {owns : Nat → Prop}
    (spares : memory.Spares number owns after) (another : lodging.number ≠ number)
    (apart : ∀ address, lodging.Owns address → ¬ owns address)
    (coherent : Coherent after.accesses) : Housed lodging after scope := by
  have kept (cell : Cell κ) (member : cell ∈ lodging.cells) :
      after.configs cell.key cell.address = memory.configs cell.key cell.address :=
    spares.configs cell.key cell.address (apart _ (Or.inr ⟨cell, member, rfl⟩))
  refine ⟨?_, ?_, ?_, coherent, ?_, ?_, housed.distinct⟩
  · rw [spares.commons _ (apart _ (Or.inl rfl))]
    exact housed.common
  · intro position cell found
    rw [kept cell (List.mem_of_getElem? found)]
    exact housed.configs position cell found
  · intro position cell found
    obtain ⟨fresh, told, own⟩ := spares.accesses
    rw [kept cell (List.mem_of_getElem? found), told]
    refine (housed.written position cell found).append ?_
    intro access member
    unfold Access.writes?
    rw [if_neg]
    rintro ⟨_, same, _⟩
    exact another (same.symm.trans (own access member))
  · exact Nat.lt_of_lt_of_le housed.lodged spares.used
  · exact fun cell member => Nat.lt_of_lt_of_le (housed.within cell member) spares.used

theorem lt_used (housed : Housed lodging memory scope) {address : Nat}
    (owns : lodging.Owns address) : address < memory.used := by
  rcases owns with rfl | ⟨cell, member, rfl⟩
  · exact housed.lodged
  · exact housed.within cell member

variable [DecidableEq κ]

omit [DecidableEq κ] in
theorem view_eq (housed : Housed lodging memory scope) (lends : lodging.Lends handle) :
    handle.view memory = ⟨scope.configs handle.cell.key handle.position, scope.common⟩ := by
  unfold Handle.view
  rw [lends.home, housed.common, housed.configs _ _ lends.cell]

omit [DecidableEq κ] in
theorem note (housed : Housed lodging memory scope) (lends : lodging.Lends handle) :
    Housed lodging (handle.note memory) scope := by
  refine { housed with written := ?_, coherent := ?_ }
  · intro position cell found
    refine (housed.written position cell found).append ?_
    intro access member
    rw [List.mem_singleton.mp member]
    exact Handle.writes?_read _
  · refine housed.coherent.snoc fun _ => ?_
    have told := housed.written _ _ lends.cell
    rw [← lends.workflow] at told
    exact told

/-- A write through a handle is one to the configuration of that registration alone. -/
theorem put (housed : Housed lodging memory scope) (lends : lodging.Lends handle)
    (view : View (Config handle.cell.key) Act Ω) :
    Housed lodging (handle.put view memory)
      ((Scope.viewPart handle.cell.key handle.position).set view scope) := by
  have here : (handle.put view memory).configs handle.cell.key handle.cell.address = view.config :=
    Scope.setConfig_self ..
  have elsewhere (position : Nat) (cell : Cell κ) (found : lodging.cells[position]? = some cell)
      (apart : position ≠ handle.position) :
      (handle.put view memory).configs cell.key cell.address =
        memory.configs cell.key cell.address :=
    Scope.setConfig_of_ne _ _ _ _ fun same =>
      apart (housed.distinct position _ cell _ found lends.cell same)
  refine { housed with common := ?_, configs := ?_, written := ?_, coherent := ?_ }
  · change Function.update memory.commons handle.home view.common lodging.home = view.common
    rw [lends.home, Function.update_self]
  · intro position cell found
    by_cases same : position = handle.position
    · subst same
      cases lends.cell.symm.trans found
      exact here.trans (Scope.setConfig_self ..).symm
    · rw [elsewhere position cell found same]
      exact (housed.configs position cell found).trans (Scope.setConfig_of_ne _ _ _ _ same).symm
  · intro position cell found
    by_cases same : position = handle.position
    · subst same
      cases lends.cell.symm.trans found
      rw [here]
      refine writtenLast_append_singleton.mpr (Or.inl ?_)
      rw [← lends.workflow]
      exact Handle.writes?_self view.config
    · rw [elsewhere position cell found same]
      exact writtenLast_append_singleton.mpr (Or.inr
        ⟨Handle.writes?_of_ne view.config (Ne.symm same), housed.written position cell found⟩)
  · exact housed.coherent.snoc fun read => nomatch read

omit [DecidableEq κ] in
theorem spares_note (lends : lodging.Lends handle) (memory : Memory Config Act Ω) :
    memory.Spares lodging.number lodging.Owns (handle.note memory) := by
  refine ⟨Nat.le_refl _, fun _ _ => rfl, fun _ _ _ => rfl, [_], rfl, ?_⟩
  intro access member
  rw [List.mem_singleton.mp member]
  exact lends.workflow

theorem spares_put (lends : lodging.Lends handle) (view : View (Config handle.cell.key) Act Ω)
    (memory : Memory Config Act Ω) :
    memory.Spares lodging.number lodging.Owns (handle.put view memory) := by
  refine ⟨Nat.le_refl _, ?_, ?_, [_], rfl, ?_⟩
  · intro address apart
    exact Function.update_of_ne (fun same => apart (Or.inl (same.trans lends.home))) _ _
  · intro key address apart
    exact Scope.setConfig_of_ne _ _ _ _ fun same =>
      apart (Or.inr ⟨handle.cell, List.mem_of_getElem? lends.cell, same.symm⟩)
  · intro access member
    rw [List.mem_singleton.mp member]
    exact lends.workflow

/-- What a hook does through its handle it does when its workflow is alone. -/
theorem tracks_through (lends : lodging.Lends handle)
    (work : Proc (View (Config handle.cell.key) Act Ω) α) :
    (work.through handle).Tracks lodging.tie
      (work.on (Scope.viewPart handle.cell.key handle.position)) := by
  intro memory scope housed
  induction work generalizing memory scope with
  | done value => exact .done value housed
  | fail fault => exact .fail fault housed
  | read next ih =>
      refine .readLeft (.writeLeft (spares_note lends memory) (.readRight ?_))
      rw [view_eq housed lends]
      exact ih _ _ _ (housed.note lends)
  | write view next ih =>
      refine .readLeft (.writeLeft (spares_put lends view memory) (.readRight (.writeRight ?_)))
      exact ih _ _ (housed.put lends view)
  | wait duration next ih => exact .wait duration housed ih

omit [DecidableEq κ] in
theorem common_set (housed : Housed lodging memory scope) (common : Common Act Ω) :
    Housed lodging ((Memory.commonPart lodging.home).set common memory)
      (Scope.commonPart.set common scope) :=
  { housed with common := Function.update_self .. }

omit [DecidableEq κ] in
theorem spares_common (lodging : Lodging κ) (memory : Memory Config Act Ω)
    (common : Common Act Ω) :
    memory.Spares lodging.number lodging.Owns
      ((Memory.commonPart lodging.home).set common memory) :=
  { Memory.Spares.refl lodging.number lodging.Owns memory with
    commons := fun _ apart => Function.update_of_ne (fun same => apart (Or.inl same)) _ _ }

omit [DecidableEq κ] in
theorem tracks_common (lodging : Lodging κ) (work : Proc (Common Act Ω) α) :
    (work.on (Memory.commonPart lodging.home)).Tracks
      (lodging.tie : Tie (Memory Config Act Ω) (Scope Config Act Ω))
      (work.on Scope.commonPart) := by
  refine Proc.tracks_on ?_ ?_ ?_ work
  · intro memory scope housed
    exact housed.common
  · intro memory scope common _
    exact spares_common lodging memory common
  · intro memory scope common housed
    exact Housed.common_set housed common

omit [DecidableEq κ] in
theorem tracks_outside (lodging : Lodging κ) (work : Proc Ω α) :
    (work.on (Memory.outsidePart lodging.home)).Tracks
      (lodging.tie : Tie (Memory Config Act Ω) (Scope Config Act Ω))
      (work.on Scope.outsidePart) := by
  refine Proc.tracks_on ?_ ?_ ?_ work
  · intro memory scope housed
    exact congrArg Common.outside housed.common
  · intro memory scope outside _
    exact spares_common lodging memory _
  · intro memory scope outside housed
    have same : memory.commons lodging.home = scope.common := housed.common
    change Housed lodging ((Memory.commonPart lodging.home).set
      { memory.commons lodging.home with outside := outside } memory)
      (Scope.commonPart.set { scope.common with outside := outside } scope)
    rw [same]
    exact Housed.common_set housed _

end Housed

end GuidedLogin
