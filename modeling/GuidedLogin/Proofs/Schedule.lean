/-
Schedules of turns. What a turn invokes, if nothing fails, is told by what is made in
it: hooks that make a node are asked up to the first that does, those that change it
come only if there is one, and those that complete a success only if it is one. A turn
that stops at a fault has gone through a first part of its schedule.
-/
import GuidedLogin.Proofs.Record
import Mathlib.Data.List.Nodup

namespace GuidedLogin

variable {κ S Act : Type}

def upTo {α : Type} (test : α → Bool) : List α → List α
  | [] => []
  | head :: tail => if test head then [head] else head :: upTo test tail

private theorem upTo_congr {α : Type} {first second : α → Bool} {list : List α}
    (same : ∀ element ∈ list, first element = second element) :
    upTo first list = upTo second list := by
  induction list with
  | nil => rfl
  | cons head tail ih =>
      rw [upTo, upTo, same head List.mem_cons_self,
        ih fun element member => same element (List.mem_cons_of_mem head member)]

private theorem upTo_sublist {α : Type} (test : α → Bool) (list : List α) :
    (upTo test list).Sublist list := by
  induction list with
  | nil => exact List.Sublist.slnil
  | cons head tail ih =>
      rw [upTo]
      split
      · exact List.Sublist.cons_cons head (List.nil_sublist tail)
      · exact List.Sublist.cons_cons head ih

def LogEntry.makesNode (entry : LogEntry S Act) : Bool :=
  match entry.outcome with
  | .ok (.produced (some _)) => true
  | _ => false

def madeAt (entries : List (LogEntry S Act)) (slot : Slot) : Bool :=
  entries.any fun entry => entry.slot = slot && entry.makesNode

theorem madeAt_append (first second : List (LogEntry S Act)) (slot : Slot) :
    madeAt (first ++ second) slot = (madeAt first slot || madeAt second slot) :=
  List.any_append

theorem madeAt_eq_false {entries : List (LogEntry S Act)} {slot : Slot}
    (elsewhere : ∀ entry ∈ entries, entry.slot = slot → entry.makesNode = false) :
    madeAt entries slot = false := by
  rw [madeAt, List.any_eq_false]
  intro entry member made
  obtain ⟨here, makes⟩ := (Bool.and_eq_true _ _).mp made
  have not := elsewhere entry member (of_decide_eq_true here)
  rw [not] at makes
  cases makes

namespace Workflow

/-- What a turn invokes up to the response, and the hooks that look at it. -/
def opensWith (workflow : Workflow κ S Act) (opening : Opening Act) (initialized : Bool) :
    List Slot :=
  workflow.initAgenda initialized ++ workflow.openingAgenda opening ++ [.transport] ++
    stageSlots .response 0 workflow.hooks.response.length

/-- What a turn invokes once a node is made, if it is: hooks that change it, and for a
success those that complete it. Completing a success leaves it one. -/
def completion (workflow : Workflow κ S Act) : Option (Node Act) → List Slot
  | none => []
  | some node =>
      stageSlots .node 0 workflow.hooks.node.length ++
        if node.success?.isSome then stageSlots .success 0 workflow.hooks.success.length else []

def schedule (workflow : Workflow κ S Act) (opening : Opening Act) (initialized : Bool)
    (entries : List (LogEntry S Act)) : List Slot :=
  workflow.opensWith opening initialized ++
    upTo (madeAt entries) (stageSlots .transform 0 workflow.hooks.transform.length) ++
    workflow.completion ((Visit.turn opening).outlook entries).node

/-- Places on the agenda lead a log through some of them, or to a fault on the way. -/
def Reaches (workflow : Workflow κ S Act) (visit : Visit Act) (slots taken : List Slot)
    (log : Log S Act) (holds : Outlook Act → Prop) : Prop :=
  ∃ fresh,
    (workflow.follow visit log slots).entries = log.entries ++ fresh ∧
      fresh.map LogEntry.slot <+: taken ∧
      ((workflow.follow visit log slots).halt = none →
        fresh.map LogEntry.slot = taken ∧
          holds (visit.outlook (workflow.follow visit log slots).entries))

variable {workflow : Workflow κ S Act} {visit : Visit Act} {opening : Opening Act}
variable {log : Log S Act} {holds : Outlook Act → Prop}

theorem Reaches.append {firstSlots firstTaken nextSlots nextTaken : List Slot}
    {middle : Outlook Act → Prop}
    (reached : Reaches workflow visit firstSlots firstTaken log middle)
    (onward : (workflow.follow visit log firstSlots).halt = none →
      middle (visit.outlook (workflow.follow visit log firstSlots).entries) →
      Reaches workflow visit nextSlots nextTaken (workflow.follow visit log firstSlots) holds) :
    Reaches workflow visit (firstSlots ++ nextSlots) (firstTaken ++ nextTaken) log holds := by
  obtain ⟨fresh, told, started, ended⟩ := reached
  unfold Reaches
  rw [follow_append]
  cases halted : (workflow.follow visit log firstSlots).halt with
  | some fault =>
      rw [follow_of_halt halted, halted]
      refine ⟨fresh, told, started.trans (List.prefix_append _ _), ?_⟩
      intro going
      cases going
  | none =>
      obtain ⟨whole, held⟩ := ended halted
      obtain ⟨later, laterTold, laterStarted, laterEnded⟩ := onward halted held
      refine ⟨fresh ++ later, ?_, ?_, ?_⟩
      · rw [laterTold, told, List.append_assoc]
      · rw [List.map_append, whole]
        exact (List.prefix_append_right_inj firstTaken).mpr laterStarted
      · intro going
        obtain ⟨laterWhole, laterHeld⟩ := laterEnded going
        refine ⟨?_, laterHeld⟩
        rw [List.map_append, whole, laterWhole]

theorem reaches_idle {slots : List Slot} (idle : workflow.follow visit log slots = log)
    (held : holds (visit.outlook log.entries)) : Reaches workflow visit slots [] log holds := by
  refine ⟨[], ?_, List.prefix_rfl, ?_⟩
  · rw [idle, List.append_nil]
  · intro _
    rw [idle]
    exact ⟨rfl, held⟩

theorem ok_of_survived {slot : Slot} {outcome : Except Fault (Yield Act)}
    (fatal : ∀ fault, visit.survives slot fault = false)
    (survived : visit.fatal? slot outcome = none) : ∃ yield, outcome = .ok yield := by
  cases outcome with
  | ok yield => exact ⟨yield, rfl⟩
  | error fault => simp [Visit.fatal?, fatal] at survived

theorem attend_fatal {slot : Slot} {invocation : Invocation Act} (running : log.halt = none)
    (due : visit.due? (visit.outlook log.entries) slot = some invocation)
    (fatal : ∀ fault, visit.survives slot fault = false) :
    ∃ entry, entry.slot = slot ∧ (workflow.attend visit log slot).entries = log.entries ++ [entry] ∧
      ((workflow.attend visit log slot).halt = none →
        ∃ yield, entry.outcome = .ok yield ∧ slot.Yields yield) := by
  obtain ⟨entry, rfl, told, ended⟩ := attend_running workflow running due
  refine ⟨entry, rfl, told, ?_⟩
  intro going
  obtain ⟨survived, yields⟩ := ended going
  obtain ⟨yield, yielded⟩ := ok_of_survived fatal survived
  exact ⟨yield, yielded, yields yield yielded⟩

theorem Reaches.cons {slot : Slot} {rest taken : List Slot} {entry : LogEntry S Act}
    (here : entry.slot = slot)
    (told : (workflow.attend visit log slot).entries = log.entries ++ [entry])
    (onward : (workflow.attend visit log slot).halt = none →
      Reaches workflow visit rest taken (workflow.attend visit log slot) holds) :
    Reaches workflow visit (slot :: rest) (slot :: taken) log holds := by
  unfold Reaches
  rw [follow_cons]
  cases halted : (workflow.attend visit log slot).halt with
  | some fault =>
      rw [follow_of_halt halted, halted]
      refine ⟨[entry], told, ⟨taken, ?_⟩, ?_⟩
      · rw [List.map_singleton, here]
        rfl
      · intro going
        cases going
  | none =>
      obtain ⟨later, laterTold, started, ended⟩ := onward halted
      refine ⟨entry :: later, ?_, ?_, ?_⟩
      · rw [laterTold, told, List.append_assoc]
        rfl
      · rw [List.map_cons, here]
        exact (List.prefix_cons_inj slot).mpr started
      · intro going
        obtain ⟨whole, held⟩ := ended going
        refine ⟨?_, held⟩
        rw [List.map_cons, here, whole]

theorem reaches_due (slots : List Slot) (running : log.halt = none)
    (start : holds (visit.outlook log.entries))
    (due : ∀ slot ∈ slots, ∀ outlook, holds outlook → (visit.due? outlook slot).isSome)
    (kept : ∀ slot ∈ slots, ∀ outlook yield, slot.Yields yield → holds outlook →
      holds (outlook.take yield))
    (fatal : ∀ slot ∈ slots, ∀ fault, visit.survives slot fault = false) :
    Reaches workflow visit slots slots log holds := by
  induction slots generalizing log with
  | nil => exact reaches_idle rfl start
  | cons slot rest ih =>
      obtain ⟨invocation, dueHere⟩ :=
        Option.isSome_iff_exists.mp (due slot List.mem_cons_self _ start)
      obtain ⟨entry, here, told, ended⟩ :=
        attend_fatal running dueHere (fatal slot List.mem_cons_self)
      refine .cons here told fun going => ?_
      obtain ⟨yield, yielded, yields⟩ := ended going
      have held : holds (visit.outlook (workflow.attend visit log slot).entries) := by
        rw [told, Visit.outlook_append_singleton, Outlook.note, yielded]
        exact kept slot List.mem_cons_self _ yield yields start
      exact ih going held
        (fun other member => due other (List.mem_cons_of_mem _ member))
        (fun other member => kept other (List.mem_cons_of_mem _ member))
        (fun other member => fatal other (List.mem_cons_of_mem _ member))

/-- Places where something is always due are all attended, up to a fault that ends the call. -/
theorem reaches_always (workflow : Workflow κ S Act) (visit : Visit Act) (slots : List Slot)
    (running : log.halt = none)
    (due : ∀ slot ∈ slots, ∀ outlook : Outlook Act, (visit.due? outlook slot).isSome) :
    Reaches workflow visit slots slots log fun _ => True := by
  induction slots generalizing log with
  | nil => exact reaches_idle rfl trivial
  | cons slot rest ih =>
      obtain ⟨invocation, dueHere⟩ :=
        Option.isSome_iff_exists.mp (due slot List.mem_cons_self (visit.outlook log.entries))
      obtain ⟨entry, here, told, _⟩ := attend_running workflow running dueHere
      refine .cons here told fun going => ?_
      exact ih going fun other member => due other (List.mem_cons_of_mem slot member)

/-! ### The stages of a turn -/

theorem survives_turn {slot : Slot} (notSignOff : ∀ position, slot ≠ .hook .signOff position)
    (fault : Fault) : (Visit.turn opening).survives slot fault = false := by
  cases slot with
  | hook stage position =>
      cases stage <;> first | rfl | exact absurd rfl (notSignOff position)
  | adapter position => rfl
  | transport => cases fault <;> rfl

theorem reaches_stage (workflow : Workflow κ S Act) (stage : Stage) (count : Nat)
    (notSignOff : stage ≠ .signOff) (running : log.halt = none)
    (start : holds ((Visit.turn opening).outlook log.entries))
    (due : ∀ position outlook, holds outlook →
      ((Visit.turn opening).due? outlook (.hook stage position)).isSome)
    (kept : ∀ position outlook yield, (Slot.hook stage position).Yields yield → holds outlook →
      holds (outlook.take yield)) :
    Reaches workflow (.turn opening) (stageSlots stage 0 count) (stageSlots stage 0 count) log
      holds := by
  refine reaches_due _ running start ?_ ?_ ?_
  · intro slot member
    obtain ⟨position, _, rfl⟩ := List.mem_map.mp member
    exact due position
  · intro slot member
    obtain ⟨position, _, rfl⟩ := List.mem_map.mp member
    exact kept position
  · intro slot member
    obtain ⟨position, _, rfl⟩ := List.mem_map.mp member
    apply survives_turn
    rintro other same
    cases same
    exact notSignOff rfl

private theorem reaches_initAgenda (initialized : Bool) (running : log.halt = none)
    (unmade : ((Visit.turn opening).outlook log.entries).node = none) :
    Reaches workflow (.turn opening) (workflow.initAgenda initialized)
      (workflow.initAgenda initialized) log fun outlook => outlook.node = none := by
  unfold initAgenda
  cases initialized with
  | true => exact reaches_idle rfl unmade
  | false =>
      apply reaches_stage workflow .init _ (by decide) running unmade (fun _ _ _ => rfl)
      intro position outlook yield yields unmade
      cases yield <;> first | exact unmade | cases yields

private theorem reaches_openingAgenda (running : log.halt = none)
    (unmade : ((Visit.turn opening).outlook log.entries).node = none) :
    Reaches workflow (.turn opening) (workflow.openingAgenda opening)
      (workflow.openingAgenda opening) log fun outlook => outlook.node = none := by
  cases opening with
  | start request =>
      apply reaches_stage workflow .start _ (by decide) running unmade (fun _ _ _ => rfl)
      intro position outlook yield yields unmade
      cases yield <;> first | exact unmade | cases yields
  | next step =>
      have adapted : Reaches workflow (.turn (.next step))
          ((List.range' 0 (workflow.adapters step).length).map Slot.adapter)
          ((List.range' 0 (workflow.adapters step).length).map Slot.adapter) log
          fun outlook => outlook.node = none := by
        refine reaches_due _ running unmade ?_ ?_ ?_
        · intro slot member _ _
          obtain ⟨position, _, rfl⟩ := List.mem_map.mp member
          rfl
        · intro slot member outlook yield yields unmade
          obtain ⟨position, _, rfl⟩ := List.mem_map.mp member
          cases yield <;> first | exact unmade | cases yields
        · intro slot member fault
          obtain ⟨position, _, rfl⟩ := List.mem_map.mp member
          rfl
      refine adapted.append fun running unmade => ?_
      apply reaches_stage workflow .next _ (by decide) running unmade (fun _ _ _ => rfl)
      intro position outlook yield yields unmade
      cases yield <;> first | exact unmade | cases yields

private theorem reaches_transport (running : log.halt = none)
    (unmade : ((Visit.turn opening).outlook log.entries).node = none) :
    Reaches workflow (.turn opening) [.transport] [.transport] log
      fun outlook => outlook.node = none ∧ outlook.answer.isSome := by
  have due : (Visit.turn opening).due? ((Visit.turn opening).outlook log.entries) .transport =
      some (.transport ((Visit.turn opening).outlook log.entries).request) := rfl
  obtain ⟨entry, here, told, ended⟩ := attend_fatal running due fun fault =>
    survives_turn (by intro position same; cases same) fault
  refine .cons here told fun going => reaches_idle rfl ?_
  obtain ⟨yield, yielded, yields⟩ := ended going
  rw [told, Visit.outlook_append_singleton, Outlook.note, yielded]
  cases yield with
  | response response => exact ⟨unmade, rfl⟩
  | nothing => cases yields
  | request request => cases yields
  | produced node => cases yields
  | node node => cases yields
  | success node => cases yields

private theorem reaches_response (running : log.halt = none)
    (told : ((Visit.turn opening).outlook log.entries).node = none ∧
      ((Visit.turn opening).outlook log.entries).answer.isSome) :
    Reaches workflow (.turn opening) (stageSlots .response 0 workflow.hooks.response.length)
      (stageSlots .response 0 workflow.hooks.response.length) log
      fun outlook => outlook.node = none ∧ outlook.answer.isSome := by
  refine reaches_stage workflow .response _ (by decide) running told ?_ ?_
  · intro position outlook told
    simpa [Visit.due?] using told.2
  · intro position outlook yield yields told
    cases yield <;> first | exact told | cases yields

private theorem reaches_opensWith (engine : Engine S Act) :
    Reaches workflow (.turn opening) (workflow.opensWith opening engine.initialized)
      (workflow.opensWith opening engine.initialized) (.begin engine.inner)
      fun outlook => outlook.node = none ∧ outlook.answer.isSome := by
  have initial : Reaches workflow (.turn opening) (workflow.initAgenda engine.initialized)
      (workflow.initAgenda engine.initialized) (.begin engine.inner)
      fun outlook => outlook.node = none :=
    reaches_initAgenda engine.initialized rfl rfl
  have opened := initial.append fun running unmade => reaches_openingAgenda running unmade
  have sent := opened.append fun running unmade => reaches_transport running unmade
  exact sent.append fun running told => reaches_response running told

theorem mem_stageSlots {stage : Stage} {first count : Nat} {slot : Slot} :
    slot ∈ stageSlots stage first count ↔
      ∃ position, slot = .hook stage position ∧ first ≤ position ∧ position < first + count := by
  unfold stageSlots
  rw [List.mem_map]
  constructor
  · rintro ⟨position, member, rfl⟩
    exact ⟨position, rfl, List.mem_range'_1.mp member⟩
  · rintro ⟨position, rfl, within⟩
    exact ⟨position, List.mem_range'_1.mpr within, rfl⟩

theorem exists_fresh (workflow : Workflow κ S Act) (visit : Visit Act) (log : Log S Act)
    (slots : List Slot) :
    ∃ fresh, (workflow.follow visit log slots).entries = log.entries ++ fresh ∧
      ∀ entry ∈ fresh, entry.slot ∈ slots := by
  refine follow_induction (fun reached => ∃ fresh, reached.entries = log.entries ++ fresh ∧
    ∀ entry ∈ fresh, entry.slot ∈ slots) slots ⟨[], (List.append_nil _).symm, by simp⟩ ?_
  rintro reached slot invocation member ⟨fresh, told, placed⟩ running due
  obtain ⟨entry, rfl, noted, _⟩ := attend_running workflow running due
  refine ⟨fresh ++ [entry], by rw [noted, told, List.append_assoc], ?_⟩
  intro other inFresh
  rcases List.mem_append.mp inFresh with earlier | last
  · exact placed other earlier
  · rw [List.mem_singleton.mp last]
    exact member

private theorem note_of_makesNode {entry : LogEntry S Act} (outlook : Outlook Act)
    (makes : entry.makesNode = true) : (outlook.note entry).node.isSome := by
  unfold LogEntry.makesNode at makes
  unfold Outlook.note
  split at makes
  · rename_i node yielded
    rw [yielded]
    rfl
  · cases makes

private theorem note_of_not_makesNode {entry : LogEntry S Act} {position : Nat} {yield : Yield Act}
    (outlook : Outlook Act) (yields : (Slot.hook .transform position).Yields yield)
    (yielded : entry.outcome = .ok yield) (makes : ¬ entry.makesNode = true) :
    outlook.note entry = outlook := by
  unfold LogEntry.makesNode at makes
  unfold Outlook.note
  rw [yielded] at makes ⊢
  cases yield with
  | nothing => rfl
  | produced made =>
      cases made with
      | none => rfl
      | some node => exact absurd rfl makes
  | request request => cases yields
  | response response => cases yields
  | node node => cases yields
  | success node => cases yields

private theorem madeAt_noted {earlier later : List (LogEntry S Act)} (entry : LogEntry S Act)
    (before : ∀ other ∈ earlier, other.slot ≠ entry.slot)
    (after : ∀ other ∈ later, other.slot ≠ entry.slot) :
    madeAt (earlier ++ [entry] ++ later) entry.slot = entry.makesNode := by
  have first : madeAt earlier entry.slot = false :=
    madeAt_eq_false fun other member same => absurd same (before other member)
  have last : madeAt later entry.slot = false :=
    madeAt_eq_false fun other member same => absurd same (after other member)
  rw [madeAt_append, madeAt_append, first, last]
  simp [madeAt]

theorem not_mem_stageSlots_succ (stage : Stage) (first count : Nat) :
    Slot.hook stage first ∉ stageSlots stage (first + 1) count := by
  intro member
  obtain ⟨position, same, within⟩ := mem_stageSlots.mp member
  cases same
  omega

private theorem madeAt_follow (workflow : Workflow κ S Act) {first count : Nat}
    {entry : LogEntry S Act}
    (here : entry.slot = .hook .transform first)
    (told : (workflow.attend (.turn opening) log (.hook .transform first)).entries =
      log.entries ++ [entry])
    (untouched : ∀ other ∈ log.entries, other.slot ∉ stageSlots .transform first (count + 1)) :
    madeAt (workflow.follow (.turn opening)
      (workflow.attend (.turn opening) log (.hook .transform first))
      (stageSlots .transform (first + 1) count)).entries (.hook .transform first) =
        entry.makesNode := by
  obtain ⟨fresh, behind, placed⟩ := exists_fresh workflow (.turn opening)
    (workflow.attend (.turn opening) log (.hook .transform first))
    (stageSlots .transform (first + 1) count)
  rw [stageSlots_succ] at untouched
  rw [behind, told, ← here]
  refine madeAt_noted entry ?_ ?_
  · intro other member same
    apply untouched other member
    rw [same, here]
    exact List.mem_cons_self
  · intro other member same
    refine not_mem_stageSlots_succ .transform first count ?_
    rw [← here, ← same]
    exact placed other member

private theorem untouched_attend {first count : Nat} {entry : LogEntry S Act}
    (here : entry.slot = .hook .transform first)
    (told : (workflow.attend (.turn opening) log (.hook .transform first)).entries =
      log.entries ++ [entry])
    (untouched : ∀ other ∈ log.entries, other.slot ∉ stageSlots .transform first (count + 1)) :
    ∀ other ∈ (workflow.attend (.turn opening) log (.hook .transform first)).entries,
      other.slot ∉ stageSlots .transform (first + 1) count := by
  intro other member later
  rw [told] at member
  rcases List.mem_append.mp member with earlier | last
  · apply untouched other earlier
    rw [stageSlots_succ]
    exact List.mem_cons_of_mem _ later
  · rw [List.mem_singleton.mp last, here] at later
    exact not_mem_stageSlots_succ .transform first count later

private theorem follow_transform_of_made (workflow : Workflow κ S Act) (first count : Nat)
    (made : ((Visit.turn opening).outlook log.entries).node.isSome) :
    workflow.follow (.turn opening) log (stageSlots .transform first count) = log := by
  apply follow_of_not_due
  intro slot member
  obtain ⟨position, rfl, _⟩ := mem_stageSlots.mp member
  simp [Visit.due?, made]

/-- Hooks that make a node are asked up to the first that does. -/
theorem reaches_transform (workflow : Workflow κ S Act) (first count : Nat)
    (running : log.halt = none)
    (told : ((Visit.turn opening).outlook log.entries).node = none ∧
      ((Visit.turn opening).outlook log.entries).answer.isSome)
    (untouched : ∀ entry ∈ log.entries, entry.slot ∉ stageSlots .transform first count) :
    Reaches workflow (.turn opening) (stageSlots .transform first count)
      (upTo (madeAt (workflow.follow (.turn opening) log
        (stageSlots .transform first count)).entries) (stageSlots .transform first count)) log
      fun _ => True := by
  induction count generalizing first log with
  | zero => exact reaches_idle rfl trivial
  | succ count ih =>
      obtain ⟨response, answered⟩ := Option.isSome_iff_exists.mp told.2
      have due : (Visit.turn opening).due? ((Visit.turn opening).outlook log.entries)
          (.hook .transform first) = some (.transform first response) := by
        simp [Visit.due?, told.1, answered]
      obtain ⟨entry, here, noted, ended⟩ := attend_fatal running due
        (survives_turn (by intro position same; cases same))
      have outlook : (Visit.turn opening).outlook
          (workflow.attend (.turn opening) log (.hook .transform first)).entries =
            ((Visit.turn opening).outlook log.entries).note entry := by
        rw [noted, Visit.outlook_append_singleton]
      rw [stageSlots_succ, follow_cons, upTo, madeAt_follow workflow here noted untouched]
      by_cases makes : entry.makesNode
      · rw [if_pos makes]
        refine .cons here noted fun _ => reaches_idle ?_ trivial
        apply follow_transform_of_made workflow (first + 1) count
        rw [outlook]
        exact note_of_makesNode _ makes
      · rw [if_neg makes]
        refine .cons here noted fun going => ?_
        obtain ⟨yield, yielded, yields⟩ := ended going
        refine ih (first + 1) going ?_ (untouched_attend here noted untouched)
        rw [outlook, note_of_not_makesNode _ yields yielded makes]
        exact told

theorem follow_keeps (workflow : Workflow κ S Act) (visit : Visit Act) (log : Log S Act)
    (holds : Outlook Act → Prop) (slots : List Slot)
    (start : holds (visit.outlook log.entries))
    (kept : ∀ slot ∈ slots, ∀ outlook yield, slot.Yields yield → holds outlook →
      holds (outlook.take yield))
    (failing : ∀ outlook cause, holds outlook → holds { outlook with failure := some cause }) :
    holds (visit.outlook (workflow.follow visit log slots).entries) := by
  apply follow_induction (fun reached => holds (visit.outlook reached.entries)) slots start
  intro reached slot invocation member held running due
  have placed := Visit.slot_of_due due
  rw [attend_of_due running due, Visit.outlook_append_singleton, Outlook.note]
  rcases ended : (workflow.perform visit invocation).run reached.state with
    ⟨⟨cause | payload⟩ | yield, after⟩
  · exact failing _ cause held
  · exact held
  · exact kept slot member _ yield (placed ▸ perform_yields ended) held

theorem follow_success_of_ne
    (other : ∀ node, (visit.outlook log.entries).node ≠ some (.success node)) (count : Nat) :
    workflow.follow visit log (stageSlots .success 0 count) = log := by
  apply follow_of_not_due
  intro slot member
  obtain ⟨position, rfl, _⟩ := mem_stageSlots.mp member
  unfold Visit.due?
  dsimp only
  split
  · exact absurd ‹_› (other _)
  · rfl

theorem follow_completion_of_none (workflow : Workflow κ S Act)
    (unmade : (visit.outlook log.entries).node = none)
    (nodes successes : Nat) :
    workflow.follow visit log (stageSlots .node 0 nodes ++ stageSlots .success 0 successes) =
      log := by
  apply follow_of_not_due
  intro slot member
  rcases List.mem_append.mp member with inNode | inSuccess
  · obtain ⟨position, rfl, _⟩ := mem_stageSlots.mp inNode
    simp [Visit.due?, unmade]
  · obtain ⟨position, rfl, _⟩ := mem_stageSlots.mp inSuccess
    simp [Visit.due?, unmade]

private theorem reaches_success (running : log.halt = none) :
    Reaches workflow (.turn opening) (stageSlots .success 0 workflow.hooks.success.length)
      (if ((Visit.turn opening).outlook (workflow.follow (.turn opening) log
          (stageSlots .success 0 workflow.hooks.success.length)).entries).node.any
            (·.success?.isSome)
        then stageSlots .success 0 workflow.hooks.success.length else []) log
      fun _ => True := by
  by_cases success : ((Visit.turn opening).outlook log.entries).node.any (·.success?.isSome)
  · have kept : ∀ position outlook yield, (Slot.hook .success position).Yields yield →
        (outlook : Outlook Act).node.any (·.success?.isSome) = true →
        (outlook.take yield).node.any (·.success?.isSome) = true := by
      intro position outlook yield yields held
      cases yield <;> first | exact held | rfl | cases yields
    have still := follow_keeps workflow (.turn opening) log
      (fun outlook => outlook.node.any (·.success?.isSome) = true)
      (stageSlots .success 0 workflow.hooks.success.length) success
      (by
        intro slot member
        obtain ⟨position, rfl, _⟩ := mem_stageSlots.mp member
        exact kept position)
      (fun _ _ held => held)
    rw [if_pos still]
    obtain ⟨fresh, told, started, ended⟩ := reaches_stage workflow .success
      workflow.hooks.success.length (by decide) running success
      (by
        intro position outlook held
        rcases outlook with ⟨request, answer, none | node, failure⟩
        · cases held
        · cases node with
          | success node => rfl
          | continuation step => cases held
          | error error => cases held
          | failure cause => cases held)
      kept
    exact ⟨fresh, told, started, fun going => ⟨(ended going).1, trivial⟩⟩
  · have idle : workflow.follow (.turn opening) log
        (stageSlots .success 0 workflow.hooks.success.length) = log := by
      refine follow_success_of_ne ?_ _
      intro node found
      rw [found] at success
      exact success rfl
    rw [idle, if_neg success]
    exact reaches_idle idle trivial

private theorem reaches_completion (running : log.halt = none) :
    Reaches workflow (.turn opening)
      (stageSlots .node 0 workflow.hooks.node.length ++
        stageSlots .success 0 workflow.hooks.success.length)
      (workflow.completion ((Visit.turn opening).outlook (workflow.follow (.turn opening) log
        (stageSlots .node 0 workflow.hooks.node.length ++
          stageSlots .success 0 workflow.hooks.success.length)).entries).node) log
      fun _ => True := by
  cases made : ((Visit.turn opening).outlook log.entries).node with
  | none =>
      have idle := follow_completion_of_none workflow made
        workflow.hooks.node.length workflow.hooks.success.length
      rw [idle, made]
      exact reaches_idle idle trivial
  | some node =>
      have start : ((Visit.turn opening).outlook log.entries).node.isSome := by
        rw [made]
        rfl
      have changed : Reaches workflow (.turn opening)
          (stageSlots .node 0 workflow.hooks.node.length)
          (stageSlots .node 0 workflow.hooks.node.length) log
          fun outlook => outlook.node.isSome := by
        refine reaches_stage workflow .node _ (by decide) running start ?_ ?_
        · intro position outlook held
          simpa [Visit.due?] using held
        · intro position outlook yield yields held
          cases yield <;> first | exact held | rfl | cases yields
      have whole := changed.append fun running _ => reaches_success running
      have still := follow_keeps workflow (.turn opening) log (fun outlook => outlook.node.isSome)
        (stageSlots .node 0 workflow.hooks.node.length ++
          stageSlots .success 0 workflow.hooks.success.length) start
        (by
          intro slot _ outlook yield _ held
          cases yield with
          | produced made => cases made <;> first | exact held | rfl
          | _ => first | exact held | rfl)
        (fun _ _ held => held)
      rw [← follow_append] at whole
      obtain ⟨last, found⟩ := Option.isSome_iff_exists.mp still
      rw [found] at whole ⊢
      exact whole

theorem stage_of_mem_opensWith {initialized : Bool} {stage : Stage} {position : Nat}
    (member : Slot.hook stage position ∈ workflow.opensWith opening initialized) :
    stage = .init ∨ stage = .start ∨ stage = .next ∨ stage = .response := by
  unfold opensWith initAgenda openingAgenda at member
  simp only [List.mem_append, List.mem_singleton, reduceCtorEq, or_false] at member
  rcases member with (inInit | inOpening) | inResponse
  · split at inInit
    · cases inInit
    · obtain ⟨other, same, _⟩ := mem_stageSlots.mp inInit
      cases same
      exact Or.inl rfl
  · cases opening with
    | start request =>
        obtain ⟨other, same, _⟩ := mem_stageSlots.mp inOpening
        cases same
        exact Or.inr (Or.inl rfl)
    | next step =>
        rcases List.mem_append.mp inOpening with inAdapters | inNext
        · obtain ⟨other, _, same⟩ := List.mem_map.mp inAdapters
          cases same
        · obtain ⟨other, same, _⟩ := mem_stageSlots.mp inNext
          cases same
          exact Or.inr (Or.inr (Or.inl rfl))
  · obtain ⟨other, same, _⟩ := mem_stageSlots.mp inResponse
    cases same
    exact Or.inr (Or.inr (Or.inr rfl))

private theorem not_mem_opensWith (initialized : Bool) (position : Nat) :
    Slot.hook .transform position ∉ workflow.opensWith opening initialized := by
  intro member
  rcases stage_of_mem_opensWith member with same | same | same | same <;> cases same

theorem initAgenda_append_agenda (workflow : Workflow κ S Act) (opening : Opening Act)
    (initialized : Bool) :
    workflow.initAgenda initialized ++ workflow.agenda (.turn opening) =
      workflow.opensWith opening initialized ++
        (stageSlots .transform 0 workflow.hooks.transform.length ++
          (stageSlots .node 0 workflow.hooks.node.length ++
            stageSlots .success 0 workflow.hooks.success.length)) := by
  simp [Workflow.agenda, exchangeAgenda, opensWith]

private theorem upTo_madeAt_append {entries fresh : List (LogEntry S Act)} {first count : Nat}
    (elsewhere : ∀ entry ∈ fresh, ∀ position, entry.slot ≠ .hook .transform position) :
    upTo (madeAt (entries ++ fresh)) (stageSlots .transform first count) =
      upTo (madeAt entries) (stageSlots .transform first count) := by
  apply upTo_congr
  intro slot member
  obtain ⟨position, rfl, _⟩ := mem_stageSlots.mp member
  have none : madeAt fresh (.hook .transform position) = false :=
    madeAt_eq_false fun entry member same => absurd same (elsewhere entry member position)
  rw [madeAt_append, none, Bool.or_false]

theorem reaches_schedule (workflow : Workflow κ S Act) (opening : Opening Act)
    (engine : Engine S Act) :
    Reaches workflow (.turn opening)
      (workflow.initAgenda engine.initialized ++ workflow.agenda (.turn opening))
      (workflow.schedule opening engine.initialized
        (workflow.logOf (.turn opening) engine).entries)
      (.begin engine.inner) fun _ => True := by
  have agenda := initAgenda_append_agenda workflow opening engine.initialized
  rw [agenda, schedule, List.append_assoc, logOf, agenda]
  refine (reaches_opensWith engine).append fun running told => ?_
  have untouched : ∀ entry ∈ (workflow.follow (.turn opening) (.begin engine.inner)
      (workflow.opensWith opening engine.initialized)).entries,
      entry.slot ∉ stageSlots .transform 0 workflow.hooks.transform.length := by
    intro entry member inTransform
    obtain ⟨fresh, same, placed⟩ := exists_fresh workflow (.turn opening) (.begin engine.inner)
      (workflow.opensWith opening engine.initialized)
    rw [same] at member
    obtain ⟨position, here, _⟩ := mem_stageSlots.mp inTransform
    have inOpens := placed entry member
    rw [here] at inOpens
    exact not_mem_opensWith engine.initialized position inOpens
  have transformed :=
    reaches_transform workflow 0 workflow.hooks.transform.length running told untouched
  obtain ⟨fresh, same, placed⟩ := exists_fresh workflow (.turn opening)
    (workflow.follow (.turn opening)
      (workflow.follow (.turn opening) (.begin engine.inner)
        (workflow.opensWith opening engine.initialized))
      (stageSlots .transform 0 workflow.hooks.transform.length))
    (stageSlots .node 0 workflow.hooks.node.length ++
      stageSlots .success 0 workflow.hooks.success.length)
  have elsewhere : ∀ entry ∈ fresh, ∀ position, entry.slot ≠ .hook .transform position := by
    intro entry member position here
    have there := placed entry member
    rw [here] at there
    rcases List.mem_append.mp there with inNode | inSuccess
    · obtain ⟨other, same, _⟩ := mem_stageSlots.mp inNode
      cases same
    · obtain ⟨other, same, _⟩ := mem_stageSlots.mp inSuccess
      cases same
  rw [← upTo_madeAt_append elsewhere, ← same, ← follow_append, ← follow_append] at transformed
  have whole := transformed.append fun running _ => reaches_completion running
  rw [← follow_append, ← follow_append] at whole
  exact whole

/-! ### Everything once -/

def rank : Slot → Nat
  | .hook .init _ => 0
  | .adapter _ => 1
  | .hook .start _ => 1
  | .hook .next _ => 2
  | .transport => 3
  | .hook .response _ => 4
  | .hook .transform _ => 5
  | .hook .node _ => 6
  | .hook .success _ => 7
  | .hook .signOff _ => 8

theorem nodup_append_of_rank {first second : List Slot} (bound : Nat) (left : first.Nodup)
    (right : second.Nodup) (below : ∀ slot ∈ first, rank slot < bound)
    (above : ∀ slot ∈ second, bound ≤ rank slot) : (first ++ second).Nodup := by
  refine List.nodup_append.mpr ⟨left, right, ?_⟩
  rintro slot inFirst _ inSecond rfl
  exact absurd (below slot inFirst) (Nat.not_lt.mpr (above slot inSecond))

theorem nodup_stageSlots (stage : Stage) (first count : Nat) :
    (stageSlots stage first count).Nodup := by
  refine List.Nodup.map ?_ List.nodup_range'
  intro position other same
  cases same
  rfl

theorem rank_of_mem {stage : Stage} {first count : Nat} {slot : Slot}
    (member : slot ∈ stageSlots stage first count) : rank slot = rank (.hook stage 0) := by
  obtain ⟨position, rfl, _⟩ := mem_stageSlots.mp member
  cases stage <;> rfl

private theorem nodup_openingAgenda (workflow : Workflow κ S Act) (opening : Opening Act) :
    (workflow.openingAgenda opening).Nodup ∧
      ∀ slot ∈ workflow.openingAgenda opening, 1 ≤ rank slot ∧ rank slot < 3 := by
  cases opening with
  | start request =>
      refine ⟨nodup_stageSlots _ _ _, ?_⟩
      intro slot member
      rw [rank_of_mem member]
      decide
  | next step =>
      constructor
      · refine nodup_append_of_rank 2 ?_ (nodup_stageSlots _ _ _) ?_ ?_
        · refine List.Nodup.map ?_ List.nodup_range'
          intro position other same
          cases same
          rfl
        · intro slot member
          obtain ⟨position, _, rfl⟩ := List.mem_map.mp member
          exact Nat.one_lt_two
        · intro slot member
          exact Nat.le_of_eq (rank_of_mem member).symm
      · intro slot member
        rcases List.mem_append.mp member with inAdapters | inNext
        · obtain ⟨position, _, rfl⟩ := List.mem_map.mp inAdapters
          change 1 ≤ 1 ∧ 1 < 3
          decide
        · rw [rank_of_mem inNext]
          decide

theorem nodup_opensWith (workflow : Workflow κ S Act) (opening : Opening Act)
    (initialized : Bool) :
    (workflow.opensWith opening initialized).Nodup ∧
      ∀ slot ∈ workflow.opensWith opening initialized, rank slot < 5 := by
  obtain ⟨openings, between⟩ := nodup_openingAgenda workflow opening
  have inits : (workflow.initAgenda initialized).Nodup ∧
      ∀ slot ∈ workflow.initAgenda initialized, rank slot = 0 := by
    unfold initAgenda
    split
    · exact ⟨List.nodup_nil, fun slot member => by cases member⟩
    · exact ⟨nodup_stageSlots _ _ _, fun slot member => rank_of_mem member⟩
  have first : (workflow.initAgenda initialized ++ workflow.openingAgenda opening).Nodup :=
    nodup_append_of_rank 1 inits.1 openings
      (fun slot member => by rw [inits.2 slot member]; exact Nat.one_pos)
      fun slot member => (between slot member).1
  have firstBelow : ∀ slot ∈ workflow.initAgenda initialized ++ workflow.openingAgenda opening,
      rank slot < 3 := by
    intro slot member
    rcases List.mem_append.mp member with inInit | inOpening
    · rw [inits.2 slot inInit]
      decide
    · exact (between slot inOpening).2
  unfold opensWith
  constructor
  · refine nodup_append_of_rank 4 ?_ (nodup_stageSlots _ _ _) ?_ ?_
    · apply nodup_append_of_rank 3 first (List.nodup_singleton _) firstBelow
      intro slot member
      rw [List.mem_singleton.mp member]
      decide
    · intro slot member
      rcases List.mem_append.mp member with inFirst | last
      · exact Nat.lt_succ_of_lt (firstBelow slot inFirst)
      · rw [List.mem_singleton.mp last]
        decide
    · intro slot member
      exact Nat.le_of_eq (rank_of_mem member).symm
  · intro slot member
    rcases List.mem_append.mp member with inSent | inResponse
    · rcases List.mem_append.mp inSent with inFirst | last
      · exact Nat.lt_trans (firstBelow slot inFirst) (by decide)
      · rw [List.mem_singleton.mp last]
        decide
    · rw [rank_of_mem inResponse]
      decide

theorem schedule_sublist (workflow : Workflow κ S Act) (opening : Opening Act)
    (initialized : Bool) (entries : List (LogEntry S Act)) :
    (workflow.schedule opening initialized entries).Sublist
      (workflow.opensWith opening initialized ++
        (stageSlots .transform 0 workflow.hooks.transform.length ++
          (stageSlots .node 0 workflow.hooks.node.length ++
            stageSlots .success 0 workflow.hooks.success.length))) := by
  unfold schedule
  rw [List.append_assoc]
  refine (List.Sublist.refl _).append ((upTo_sublist _ _).append ?_)
  cases ((Visit.turn opening).outlook entries).node with
  | none => exact List.nil_sublist _
  | some node =>
      unfold completion
      apply (List.Sublist.refl _).append
      split
      · exact List.Sublist.refl _
      · exact List.nil_sublist _

theorem nodup_schedule (workflow : Workflow κ S Act) (opening : Opening Act) (initialized : Bool)
    (entries : List (LogEntry S Act)) :
    (workflow.schedule opening initialized entries).Nodup := by
  apply (schedule_sublist workflow opening initialized entries).nodup
  obtain ⟨opens, below⟩ := nodup_opensWith workflow opening initialized
  have completes : (stageSlots .node 0 workflow.hooks.node.length ++
      stageSlots .success 0 workflow.hooks.success.length).Nodup := by
    refine nodup_append_of_rank 7 (nodup_stageSlots _ _ _) (nodup_stageSlots _ _ _) ?_ ?_
    · intro slot member
      rw [rank_of_mem member]
      decide
    · intro slot member
      exact Nat.le_of_eq (rank_of_mem member).symm
  have completesAbove : ∀ slot ∈ stageSlots .node 0 workflow.hooks.node.length ++
      stageSlots .success 0 workflow.hooks.success.length, 6 ≤ rank slot := by
    intro slot member
    rcases List.mem_append.mp member with inNode | inSuccess
    · exact Nat.le_of_eq (rank_of_mem inNode).symm
    · rw [rank_of_mem inSuccess]
      decide
  refine nodup_append_of_rank 5 opens ?_ below ?_
  · refine nodup_append_of_rank 6 (nodup_stageSlots _ _ _) completes ?_ completesAbove
    intro slot member
    rw [rank_of_mem member]
    decide
  · intro slot member
    rcases List.mem_append.mp member with inTransform | inCompletion
    · exact Nat.le_of_eq (rank_of_mem inTransform).symm
    · exact Nat.le_of_succ_le (completesAbove slot inCompletion)

end Workflow

end GuidedLogin
