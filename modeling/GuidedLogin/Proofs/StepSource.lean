/-
Where the step comes from that an error is linked to. It is the last one that the module
which makes nodes of JSON was given, and a turn has returned it, unless something that the
same turn invoked behind that failed or made another node of it
(`StepAlone.source_of_retry`).
-/
import GuidedLogin.Proofs.FailStop
import GuidedLogin.Proofs.Retry

namespace GuidedLogin

variable {κ S Act : Type}

def ContinueNode.Matches (step other : ContinueNode Act) : Prop :=
  step.input = other.input ∧ step.actions = other.actions ∧ step.template = other.template

/-- A node that still is a step, whatever workflow it belongs to. -/
def Node.Holds (step : ContinueNode Act) (node : Node Act) : Prop :=
  ∃ other, node = .continuation other ∧ other.Matches step

/-- What is invoked fails, or makes a node that no longer is a step. -/
def LogEntry.Spoils (step : ContinueNode Act) (entry : LogEntry S Act) : Prop :=
  match entry.outcome with
  | .error _ => True
  | .ok (.node made) => ¬ made.Holds step
  | .ok _ => False

def Outlook.Holds (step : ContinueNode Act) (outlook : Outlook Act) : Prop :=
  ∃ node, outlook.node = some node ∧ node.Holds step

theorem LogEntry.succeeded_of_not_spoils {step : ContinueNode Act} {entry : LogEntry S Act}
    (unspoiled : ¬ entry.Spoils step) : entry.Succeeded := by
  unfold Spoils at unspoiled
  cases ended : entry.outcome with
  | error fault =>
      rw [ended] at unspoiled
      exact absurd trivial unspoiled
  | ok yield => exact ⟨yield, ended⟩

private theorem exists_of_flatMap_eq {α β : Type} {parts : α → List β} {items : List α}
    {front behind : List β} {item : β} (same : items.flatMap parts = front ++ item :: behind) :
    ∃ earlier here later before rest, items = earlier ++ here :: later ∧
      parts here = before ++ item :: rest ∧ behind = rest ++ later.flatMap parts := by
  induction items generalizing front with
  | nil => simp at same
  | cons first items ih =>
      rw [List.flatMap_cons] at same
      rcases List.append_eq_append_iff.mp same with ⟨middle, _, others⟩ | ⟨middle, whole, others⟩
      · obtain ⟨earlier, here, later, before, rest, rfl, inHere, behindHere⟩ := ih others
        exact ⟨first :: earlier, here, later, before, rest, rfl, inHere, behindHere⟩
      · cases middle with
        | nil =>
            obtain ⟨earlier, here, later, before, rest, rfl, inHere, behindHere⟩ :=
              @ih [] others.symm
            exact ⟨first :: earlier, here, later, before, rest, rfl, inHere, behindHere⟩
        | cons head rest =>
            obtain ⟨rfl, behindHere⟩ := List.cons.inj others
            exact ⟨[], first, items, front, rest, rfl, whole, behindHere⟩

/-! ### Steps that reach the end of their turn -/

private theorem Slot.transform_of_produced {slot : Slot} {made : Option (Node Act)}
    (yields : slot.Yields (.produced made)) : ∃ position, slot = .hook .transform position := by
  cases slot with
  | hook stage position => cases stage <;> first | exact ⟨position, rfl⟩ | cases yields
  | adapter position => cases yields
  | transport => cases yields

private theorem Slot.success_of_success {slot : Slot} {made : SuccessNode Act}
    (yields : slot.Yields (.success made)) : ∃ position, slot = .hook .success position := by
  cases slot with
  | hook stage position => cases stage <;> first | exact ⟨position, rfl⟩ | cases yields
  | adapter position => cases yields
  | transport => cases yields

namespace Workflow

variable {workflow : Workflow κ S Act} {visit : Visit Act} {first last : S}
variable {step : ContinueNode Act}

private theorem holds_note {outlook : Outlook Act} {entry : LogEntry S Act}
    (holds : outlook.Holds step)
    (due : visit.due? outlook entry.slot = some entry.invocation)
    (ran : (workflow.perform visit entry.invocation).run entry.before =
      (entry.outcome, entry.after))
    (unspoiled : ¬ entry.Spoils step) : (outlook.note entry).Holds step := by
  obtain ⟨yield, yielded⟩ := LogEntry.succeeded_of_not_spoils unspoiled
  rw [yielded] at ran
  have yields : entry.slot.Yields yield := perform_yields ran
  obtain ⟨node, now, other, rfl, same⟩ := holds
  unfold LogEntry.Spoils at unspoiled
  unfold Outlook.note
  rw [yielded] at unspoiled ⊢
  cases yield with
  | nothing => exact ⟨_, now, other, rfl, same⟩
  | request request => exact ⟨_, now, other, rfl, same⟩
  | response response => exact ⟨_, now, other, rfl, same⟩
  | node made => exact ⟨made, rfl, not_not.mp unspoiled⟩
  | produced made =>
      obtain ⟨position, placed⟩ := Slot.transform_of_produced yields
      rw [placed] at due
      simp [Visit.due?, now] at due
  | success made =>
      obtain ⟨position, placed⟩ := Slot.success_of_success yields
      rw [placed] at due
      simp [Visit.due?, now] at due

/-- What a call comes to holds the step that something invoked in it made, if nothing
behind that spoils it. -/
theorem holds_outlook {entries front behind : List (LogEntry S Act)} {source : LogEntry S Act}
    (recorded : Recorded workflow visit first entries last)
    (within : entries = front ++ source :: behind)
    (made : source.outcome = .ok (.node (.continuation step)))
    (unspoiled : ∀ other ∈ behind, ¬ other.Spoils step) : (visit.outlook entries).Holds step := by
  induction recorded generalizing behind with
  | begin => simp at within
  | @note entries entry recorded survived due ran ih =>
      rw [Visit.outlook_append_singleton]
      rcases append_singleton_eq within with ⟨_, rfl, rfl⟩ | ⟨between, rfl, earlier⟩
      · unfold Outlook.note
        rw [made]
        exact ⟨_, rfl, step, rfl, rfl, rfl, rfl⟩
      · refine holds_note (ih earlier ?_) due ran (unspoiled entry (by simp))
        intro other member
        exact unspoiled other (by simp [member])

private theorem node_not_mem_signOff (initialized : Bool) (position : Nat) :
    Slot.hook .node position ∉ workflow.initAgenda initialized ++ workflow.agenda .signOff := by
  intro listed
  rcases List.mem_append.mp listed with inInit | inAgenda
  · unfold initAgenda at inInit
    split at inInit
    · cases inInit
    · obtain ⟨_, same, _⟩ := mem_stageSlots.mp inInit
      cases same
  · rcases List.mem_append.mp inAgenda with inHooks | sent
    · obtain ⟨_, same, _⟩ := mem_stageSlots.mp inHooks
      cases same
    · cases List.mem_singleton.mp sent

end Workflow

namespace Passage.Happens

variable {workflow : Workflow κ S Act} {passage : Passage S Act} {step : ContinueNode Act}

private theorem exists_opening {entry : LogEntry S Act} {position : Nat}
    (happens : passage.Happens workflow) (member : entry ∈ passage.entries)
    (placed : entry.slot = .hook .node position) :
    ∃ opening, passage.visit = .turn opening := by
  cases called : passage.visit with
  | turn opening => exact ⟨opening, rfl⟩
  | signOff =>
      obtain ⟨fresh, noted, inAgenda⟩ := Workflow.exists_fresh workflow passage.visit
        (.begin passage.before.inner)
        (workflow.initAgenda passage.before.initialized ++ workflow.agenda passage.visit)
      have told : passage.entries = [] ++ fresh := happens.logOf.1.trans noted
      rw [told, List.nil_append] at member
      have listed := inAgenda entry member
      rw [called, placed] at listed
      exact absurd listed (Workflow.node_not_mem_signOff _ _)

/-- A turn in which a step is made, and nothing spoils it, returns the step. -/
theorem returns_step {front behind : List (LogEntry S Act)} {source : LogEntry S Act}
    {opening : Opening Act} (happens : passage.Happens workflow)
    (turn : passage.visit = .turn opening)
    (within : passage.entries = front ++ source :: behind)
    (made : source.outcome = .ok (.node (.continuation step)))
    (unspoiled : ∀ other ∈ behind, ¬ other.Spoils step) :
    ∃ other, passage.upshot = .node (.continuation other) ∧ other.Matches step := by
  obtain ⟨node, came, failStop⟩ := happens.failStop turn
  have succeeded : ∀ entry ∈ passage.entries, entry.Succeeded := by
    intro entry member
    rw [within] at member
    rcases List.mem_append.mp member with inFront | inRest
    · apply failStop.cut
      rw [within, List.dropLast_append_of_ne_nil (List.cons_ne_nil source behind)]
      exact List.mem_append_left _ inFront
    · rcases List.mem_cons.mp inRest with rfl | later
      · exact ⟨_, made⟩
      · exact LogEntry.succeeded_of_not_spoils (unspoiled entry later)
  have recorded := happens.recorded
  rw [turn] at recorded
  obtain ⟨_, now, other, rfl, same⟩ := Workflow.holds_outlook recorded within made unspoiled
  refine ⟨other.attach workflow.id, ?_, same⟩
  rw [came, failStop.handled succeeded _ now]
  rfl

end Passage.Happens

namespace Blueprint

variable {ι : Type} {Own : ι → Type} {Ω : Type} [DecidableEq ι]
variable {plan : Blueprint (CatalogKey.Config Own Act Ω) Act Ω}
variable {own : (id : ι) → Module (Own id) Act Ω} {safe : (id : ι) → Own id → Prop}
variable {pending : Option (ContinueNode Act)} {step : ContinueNode Act} {visit : Visit Act}
variable {first last : Scope (CatalogKey.Config Own Act Ω) Act Ω}
variable {entries : List (LogEntry (Scope (CatalogKey.Config Own Act Ω) Act Ω) Act)}

/-- What becomes of the last step, if what is invoked concerns it: the module that makes
nodes of JSON forgets it when a flow starts or succeeds, and remembers every step it is
given. -/
def stepEffect? (plan : Blueprint (CatalogKey.Config Own Act Ω) Act Ω) :
    Invocation Act → Option (Option (ContinueNode Act))
  | .start position _ => if plan.JsonAt .start position then some none else none
  | .node position (.continuation step) =>
      if plan.JsonAt .node position then some (some step) else none
  | .success position _ => if plan.JsonAt .success position then some none else none
  | _ => none

def stepBehind (plan : Blueprint (CatalogKey.Config Own Act Ω) Act Ω)
    (pending : Option (ContinueNode Act))
    (entries : List (LogEntry (Scope (CatalogKey.Config Own Act Ω) Act Ω) Act)) :
    Option (ContinueNode Act) :=
  entries.foldl (fun pending entry => (plan.stepEffect? entry.invocation).getD pending) pending

theorem stepBehind_append
    (earlier later : List (LogEntry (Scope (CatalogKey.Config Own Act Ω) Act Ω) Act)) :
    plan.stepBehind pending (earlier ++ later) =
      plan.stepBehind (plan.stepBehind pending earlier) later :=
  List.foldl_append

private theorem stepBehind_eq_some_iff :
    plan.stepBehind none entries = some step ↔
      WrittenLast (plan.stepEffect? ∘ LogEntry.invocation) entries step :=
  foldl_eq_some_iff (plan.stepEffect? ∘ LogEntry.invocation) (fun pending => pending)
    (fun _ _ => rfl) rfl entries

private theorem stepEffect?_of_other {invocation : Invocation Act}
    (other : ∀ stage position, invocation.slot = .hook stage position →
      ¬ plan.JsonAt stage position) : plan.stepEffect? invocation = none := by
  cases invocation with
  | start position request => exact if_neg (other .start position rfl)
  | node position node =>
      cases node with
      | continuation step => exact if_neg (other .node position rfl)
      | _ => rfl
  | success position node => exact if_neg (other .success position rfl)
  | _ => rfl

private theorem StepAlone.keeping_perform (alone : plan.StepAlone own safe) (visit : Visit Act)
    (invocation : Invocation Act) (keeping : plan.Keeping safe pending first) :
    plan.Keeping safe ((plan.stepEffect? invocation).getD pending)
      ((plan.workflow.perform visit invocation).run first).2 := by
  by_cases json : ∃ stage position, invocation.slot = .hook stage position ∧
      plan.JsonAt stage position
  · obtain ⟨stage, position, placed, json⟩ := json
    have effect := alone.perform_json visit invocation placed json keeping
    cases invocation with
    | start index request =>
        cases placed
        rw [stepEffect?, if_pos json]
        exact effect.2
    | transform index response => exact effect.1
    | node index node =>
        cases placed
        cases node with
        | continuation step =>
            rw [stepEffect?, if_pos json]
            exact effect.2
        | _ => exact effect.2
    | success index node =>
        cases placed
        rw [stepEffect?, if_pos json]
        exact effect.2
    | _ => exact effect.elim
  · have other : ∀ stage position, invocation.slot = .hook stage position →
        ¬ plan.JsonAt stage position :=
      fun stage position placed there => json ⟨stage, position, placed, there⟩
    rw [stepEffect?_of_other other]
    exact alone.perform_other other keeping

theorem StepAlone.keeping_recorded (alone : plan.StepAlone own safe)
    (recorded : Recorded plan.workflow visit first entries last)
    (keeping : plan.Keeping safe pending first) :
    plan.Keeping safe (plan.stepBehind pending entries) last := by
  induction recorded with
  | begin => exact keeping
  | note entry recorded survived due ran ih =>
      rw [stepBehind_append]
      have kept := alone.keeping_perform visit entry.invocation ih
      rwa [ran] at kept

private theorem StepAlone.keeping_history (alone : plan.StepAlone own safe)
    {passages : List (Passage (Scope (CatalogKey.Config Own Act Ω) Act Ω) Act)}
    {now : Engine (Scope (CatalogKey.Config Own Act Ω) Act Ω) Act}
    (history : History plan.workflow StepAside plan.engine passages now) :
    plan.Keeping safe (plan.stepBehind none (passages.flatMap Passage.entries)) now.inner := by
  induction history with
  | begin =>
      apply alone.undisturbed.built
      intro registration member
      exact alone.within registration (mem_settings member)
  | @call passages passage history happens ih =>
      rw [List.flatMap_append, stepBehind_append, List.flatMap_singleton]
      exact alone.keeping_recorded happens.recorded ih
  | drift history drifted ih =>
      refine ⟨?_, drifted.2.trans ih.2⟩
      rw [drifted.1]
      exact ih.1

/-- The one thing that remembers a step is a node hook that is given it. -/
theorem stepEffect?_eq_some_some {invocation : Invocation Act}
    (remembers : plan.stepEffect? invocation = some (some step)) :
    ∃ position, invocation = .node position (.continuation step) ∧ plan.JsonAt .node position := by
  cases invocation with
  | node position node =>
      cases node with
      | continuation given =>
          rw [stepEffect?] at remembers
          split at remembers
          · rename_i json
            cases remembers
            exact ⟨position, rfl, json⟩
          · cases remembers
      | _ => cases remembers
  | start position request =>
      rw [stepEffect?] at remembers
      split at remembers <;> cases remembers
  | success position node =>
      rw [stepEffect?] at remembers
      split at remembers <;> cases remembers
  | _ => cases remembers

/-- A step that is remembered in a call is yielded there. -/
theorem StepAlone.outcome_of_remembers (alone : plan.StepAlone own safe)
    {front behind : List (LogEntry (Scope (CatalogKey.Config Own Act Ω) Act Ω) Act)}
    {source : LogEntry (Scope (CatalogKey.Config Own Act Ω) Act Ω) Act}
    (recorded : Recorded plan.workflow visit first entries last)
    (keeping : plan.Keeping safe pending first) (within : entries = front ++ source :: behind)
    (remembers : plan.stepEffect? source.invocation = some (some step)) :
    source.outcome = .ok (.node (.continuation step)) := by
  obtain ⟨position, given, json⟩ := stepEffect?_eq_some_some remembers
  obtain ⟨reached, _, _, ran⟩ := recorded.split within
  have effect := alone.perform_json visit (.node position (.continuation step)) rfl json
    (alone.keeping_recorded reached keeping)
  rw [← given, ran, given] at effect
  exact effect.1

variable {passages earlier later : List (Passage (Scope (CatalogKey.Config Own Act Ω) Act Ω) Act)}
variable {passage : Passage (Scope (CatalogKey.Config Own Act Ω) Act Ω) Act}
variable {now : Engine (Scope (CatalogKey.Config Own Act Ω) Act Ω) Act}
variable {sofar rest : List (LogEntry (Scope (CatalogKey.Config Own Act Ω) Act Ω) Act)}
variable {entry : LogEntry (Scope (CatalogKey.Config Own Act Ω) Act Ω) Act}
variable {position : Nat} {error : ErrorNode Act} {retry : ContinueNode Act}

/-- An error that the module which makes nodes of JSON links is linked to the last step that
it was given: in an earlier turn, and then that turn returned the step, or else something
behind it in its turn failed or made another node of it. -/
theorem StepAlone.source_of_retry (alone : plan.StepAlone own safe)
    (history : History plan.workflow StepAside plan.engine passages now)
    (here : passages = earlier ++ passage :: later)
    (within : passage.entries = sofar ++ entry :: rest) (json : plan.JsonAt .node position)
    (given : entry.invocation = .node position (.error error)) (bare : error.retry = none)
    (linked : entry.outcome = .ok (.node (.error { error with retry := some retry }))) :
    ∃ before turn since front source behind,
      earlier ++ [{ passage with entries := sofar }] = before ++ turn :: since ∧
      turn.entries = front ++ source :: behind ∧
      plan.stepEffect? source.invocation = some (some retry) ∧
      (∀ other ∈ behind ++ since.flatMap Passage.entries,
        plan.stepEffect? other.invocation = none) ∧
      ((turn ∈ earlier ∧
          ∃ step, turn.upshot = .node (.continuation step) ∧ step.Matches retry) ∨
        ∃ other ∈ behind, other.Spoils retry) := by
  obtain ⟨past, happens⟩ := history.split here
  obtain ⟨recorded, _, due, ran⟩ := happens.recorded.split within
  have begun := alone.keeping_history past
  have kept : plan.stepBehind none (earlier.flatMap Passage.entries ++ sofar) = some retry := by
    have effect := alone.perform_json passage.visit (.node position (.error error)) rfl json
      (alone.keeping_recorded recorded begun)
    rw [← given, ran, given] at effect
    have same := linked.symm.trans effect.1
    rw [JsonTransform.linked, bare, Option.none_or, ← stepBehind_append] at same
    simp only [Except.ok.injEq, Yield.node.injEq, Node.error.injEq, ErrorNode.mk.injEq,
      true_and] at same
    exact same.symm
  have calls : (earlier ++ [{ passage with entries := sofar }]).flatMap Passage.entries =
      earlier.flatMap Passage.entries ++ sofar := by
    rw [List.flatMap_append, List.flatMap_singleton]
  obtain ⟨_, source, _, whole, remembers, idle⟩ := stepBehind_eq_some_iff.mp kept
  obtain ⟨before, turn, since, front, behind, split, inTurn, rfl⟩ :=
    exists_of_flatMap_eq (calls.trans whole)
  refine ⟨before, turn, since, front, source, behind, split, inTurn, remembers, idle, ?_⟩
  by_cases spoiled : ∃ other ∈ behind, other.Spoils retry
  · exact Or.inr spoiled
  · have unspoiled : ∀ other ∈ behind, ¬ other.Spoils retry :=
      fun other member spoils => spoiled ⟨other, member, spoils⟩
    rcases append_singleton_eq split with ⟨_, rfl, rfl⟩ | ⟨between, rfl, inEarlier⟩
    · have made := alone.outcome_of_remembers recorded begun inTurn remembers
      obtain ⟨node, now, other, rfl, _⟩ := Workflow.holds_outlook recorded inTurn made unspoiled
      rw [LogEntry.slot, given] at due
      simp [Invocation.slot, Visit.due?, now] at due
    · obtain ⟨behindTurn, happened⟩ := past.split inEarlier
      have made := alone.outcome_of_remembers happened.recorded (alone.keeping_history behindTurn)
        inTurn remembers
      obtain ⟨place, invoked, _⟩ := stepEffect?_eq_some_some remembers
      have member : source ∈ turn.entries := by
        rw [inTurn]
        simp
      have placed : source.slot = .hook .node place := by
        rw [LogEntry.slot, invoked]
        rfl
      obtain ⟨opening, called⟩ := happened.exists_opening member placed
      refine Or.inl ⟨?_, happened.returns_step called inTurn made unspoiled⟩
      rw [inEarlier]
      simp

/-! ### Steps that no turn has returned -/

/-- In some history the module that makes nodes of JSON links an error to a step that no
turn has returned. -/
def LinksUnseen (plan : Blueprint (CatalogKey.Config Own Act Ω) Act Ω) : Prop :=
  ∃ earlier passage last sofar entry rest position error retry,
    History plan.workflow StepAside plan.engine (earlier ++ [passage]) last ∧
    passage.entries = sofar ++ entry :: rest ∧ plan.JsonAt .node position ∧
    entry.invocation = .node position (.error error) ∧ error.retry = none ∧
    entry.outcome = .ok (.node (.error { error with retry := some retry })) ∧
    ∀ turn ∈ earlier, ∀ step, turn.upshot = .node (.continuation step) → ¬ step.Matches retry

/-- A module that sees every node. The first time it fails, or makes a blank step of what it
is given; from then on it leaves nodes alone. -/
def audit (rewrites : Bool) : Module Bool Unit Bool :=
  .ofHooks "audit" false
    [.node fun node => do
      let view ← Proc.state
      if view.config then pure node
      else do
        Proc.modify fun view => { view with config := true }
        if rewrites then pure (.continuation (.ofInput ∅)) else Proc.throw (.custom "no audit")]

def passwordBody : JsonObject := NameMap.ofList [("id", .string "password")]

/-- A login that asks for a password and turns it down, with nodes that are audited behind
the module that makes them of JSON. -/
def audited (rewrites : Bool) :
    Blueprint (CatalogKey.Config (fun _ : Unit => Bool) Unit Bool) Unit Bool where
  modules := CatalogKey.module fun _ => audit rewrites
  settings := ⟨"login", [⟨.jsonTransform, .standard, 10, .append⟩,
    ⟨.added (), false, 20, .append⟩], .ofSeconds 30⟩
  id := 7
  transport := fun request => do
    let asked ← Proc.state
    Proc.modify fun _ => true
    if asked then pure (Response.ofJson request 401 (.ofObject refusalBody))
    else pure (Response.ofJson request 200 (.ofObject passwordBody))
  adapter? := fun _ => none
  outside := false

def auditedPassage (rewrites : Bool) (opening : Opening Unit)
    (before : Engine (Scope (CatalogKey.Config (fun _ : Unit => Bool) Unit Bool) Unit Bool) Unit)
    (node : Node Unit) :
    Passage (Scope (CatalogKey.Config (fun _ : Unit => Bool) Unit Bool) Unit Bool) Unit :=
  ⟨.turn opening, before, ((audited rewrites).workflow.logOf (.turn opening) before).entries,
    .node node, (((audited rewrites).workflow.call (.turn opening)).work.run before).2⟩

def auditedFirst (rewrites : Bool) : Node Unit :=
  if rewrites then .continuation moreAsked else .failure (.custom "no audit")

def passwordStep : ContinueNode Unit := ⟨passwordBody, [], .empty, none⟩

def unlinkedRefusal : ErrorNode Unit := ⟨refusalBody, "no", none⟩

def auditedAsk (rewrites : Bool) :=
  auditedPassage rewrites (.start .empty) (audited rewrites).engine (auditedFirst rewrites)

def auditedRefusal (rewrites : Bool) :=
  auditedPassage rewrites (.next (.ofInput ∅)) (auditedAsk rewrites).after
    (.error { unlinkedRefusal with retry := some (passwordStep.attach 7) })

def changed? {S : Type} (entry : LogEntry S Unit) : Option (Nat × Node Unit × Node Unit) :=
  match entry.invocation, entry.outcome with
  | .node position given, .ok (.node made) => some (position, given, made)
  | _, _ => none

theorem audited_alone (rewrites : Bool) :
    (audited rewrites).StepAlone (fun _ => audit rewrites) (fun _ _ => True) where
  catalog := rfl
  within := by
    intro registration member
    simp only [audited, List.mem_cons, List.not_mem_nil, or_false] at member
    rcases member with rfl | rfl <;> trivial
  added := by
    intro registration member id added
    apply Module.spares_ofHooks
    intro hook listed value
    rw [List.mem_singleton.mp listed]
    intro node
    refine Proc.maintains_bind Proc.maintains_state fun view => ?_
    split
    · exact Proc.maintains_done node
    · refine Proc.maintains_bind (Proc.maintains_modify fun _ shown => ⟨trivial, shown.2⟩) fun _ => ?_
      cases rewrites with
      | false => exact Proc.maintains_fail _
      | true => exact Proc.maintains_done _
  adapters := by
    intro action adapt known
    cases known

private theorem auditedPassage_before (rewrites : Bool) (opening : Opening Unit)
    (before : Engine (Scope (CatalogKey.Config (fun _ : Unit => Bool) Unit Bool) Unit Bool) Unit)
    (node : Node Unit) : (auditedPassage rewrites opening before node).before = before :=
  rfl

private theorem audited_happens {rewrites : Bool} {opening : Opening Unit}
    {before : Engine (Scope (CatalogKey.Config (fun _ : Unit => Bool) Unit Bool) Unit Bool) Unit}
    {node : Node Unit}
    (told : (((audited rewrites).workflow.call (.turn opening)).work.run before).1.toOption.any
      (fun upshot => upshot.node?.any (Node.agrees · node)) = true) :
    (auditedPassage rewrites opening before node).Happens (audited rewrites).workflow :=
  Workflow.happens_of_agrees told

theorem audited_history (rewrites : Bool) :
    History (audited rewrites).workflow StepAside (audited rewrites).engine
      [auditedAsk rewrites, auditedRefusal rewrites] (auditedRefusal rewrites).after := by
  have first : (auditedAsk rewrites).Happens (audited rewrites).workflow :=
    audited_happens (by cases rewrites <;> decide +kernel)
  have second : (auditedRefusal rewrites).Happens (audited rewrites).workflow :=
    audited_happens (by cases rewrites <;> decide +kernel)
  have asked : History (audited rewrites).workflow StepAside (audited rewrites).engine
      [auditedAsk rewrites] (auditedRefusal rewrites).before := by
    rw [auditedRefusal, auditedPassage_before]
    exact History.begin.call first
  exact asked.call second

theorem audited_links (rewrites : Bool) :
    ∃ sofar entry rest, (auditedRefusal rewrites).entries = sofar ++ entry :: rest ∧
      (audited rewrites).JsonAt .node 0 ∧ entry.invocation = .node 0 (.error unlinkedRefusal) ∧
      entry.outcome =
        .ok (.node (.error { unlinkedRefusal with retry := some passwordStep })) := by
  have told : ((auditedRefusal rewrites).entries[2]?.bind changed?).any (fun
      | (position, given, made) => decide (position = 0) &&
          given.agrees (.error unlinkedRefusal) &&
          made.agrees (.error { unlinkedRefusal with retry := some passwordStep })) = true := by
    cases rewrites <;> decide +kernel
  have json : (audited rewrites).JsonAt .node 0 := by cases rewrites <;> rfl
  obtain ⟨⟨position, given, made⟩, found, agrees⟩ := (Option.any_eq_true _ _).mp told
  simp only [Bool.and_eq_true, decide_eq_true_eq] at agrees
  obtain ⟨⟨rfl, givenSame⟩, madeSame⟩ := agrees
  rw [Node.eq_of_agrees givenSame, Node.eq_of_agrees madeSame] at found
  obtain ⟨entry, placed, changed⟩ := Option.bind_eq_some_iff.mp found
  obtain ⟨bound, rfl⟩ := List.getElem?_eq_some_iff.mp placed
  refine ⟨_, _, _, (List.take_append_drop 2 _).symm.trans
    (congrArg _ (List.drop_eq_getElem_cons bound)), json, ?_⟩
  unfold changed? at changed
  split at changed
  · rename_i position given made invoked ended
    cases changed
    exact ⟨invoked, ended⟩
  · cases changed

/-- Hooks behind the one that remembers a step may keep it from whoever called: one that
fails, and one that makes another node of it. An error is linked to the step all the same. -/
theorem linksUnseen_audited :
    ((audited false).StepAlone (fun _ => audit false) (fun _ _ => True) ∧
      (audited false).LinksUnseen) ∧
    (audited true).StepAlone (fun _ => audit true) (fun _ _ => True) ∧
      (audited true).LinksUnseen := by
  have unseen : ∀ rewrites, (audited rewrites).LinksUnseen := by
    intro rewrites
    obtain ⟨sofar, entry, rest, within, json, given, linked⟩ := audited_links rewrites
    refine ⟨[auditedAsk rewrites], auditedRefusal rewrites, _, sofar, entry, rest, 0,
      unlinkedRefusal, passwordStep, audited_history rewrites, within, json, given, rfl, linked, ?_⟩
    intro turn member step returned same
    rw [List.mem_singleton.mp member] at returned
    cases rewrites with
    | false => cases returned
    | true =>
        cases returned
        have found := congrArg (fun body : JsonObject => (body.find? "id").isSome) same.1
        exact absurd found (by decide)
  exact ⟨⟨audited_alone false, unseen false⟩, audited_alone true, unseen true⟩

/-- The step was given in the first turn, and the audit behind that failed. -/
theorem source_of_audited : ∃ before turn since front source behind sofar,
    [auditedAsk false] ++ [{ auditedRefusal false with entries := sofar }] =
      before ++ turn :: since ∧
    turn.entries = front ++ source :: behind ∧
    (audited false).stepEffect? source.invocation = some (some passwordStep) ∧
    (∀ other ∈ behind ++ since.flatMap Passage.entries,
      (audited false).stepEffect? other.invocation = none) ∧
    ((turn ∈ [auditedAsk false] ∧
        ∃ step, turn.upshot = .node (.continuation step) ∧ step.Matches passwordStep) ∨
      ∃ other ∈ behind, other.Spoils passwordStep) := by
  obtain ⟨sofar, entry, rest, within, json, given, linked⟩ := audited_links false
  have here : [auditedAsk false, auditedRefusal false] =
      [auditedAsk false] ++ auditedRefusal false :: [] := rfl
  obtain ⟨before, turn, since, front, source, behind, told⟩ :=
    (audited_alone false).source_of_retry (audited_history false) here within json given rfl linked
  exact ⟨before, turn, since, front, source, behind, sofar, told⟩

end Blueprint

end GuidedLogin
