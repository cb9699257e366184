/-
Workflows that match. Two workflows match if their adapters, their transports, and their hooks
stage by stage do alike on related states; how the hooks that build a request are told apart
is left open, as long as all of them together build requests that are alike. Whatever is
called then comes to the same, but for the workflow that a continuation belongs to
(`Matched.call`), and so do whole trips of calls (`Matched.trip`).
-/
import GuidedLogin.Proofs.Fleet
import GuidedLogin.Proofs.History
import GuidedLogin.Proofs.Installed
import GuidedLogin.Proofs.Simulation

namespace GuidedLogin

variable {κ κ' S T Act : Type}

def Stage.builds : Stage → Bool
  | .start => true
  | .next => true
  | .signOff => true
  | _ => false

def Hook.Alike (related : S → T → Prop) : Hook S Act → Hook T Act → Prop
  | .init left, .init right => left.Simulates related Eq right
  | .response left, .response right =>
      ∀ reply other : Response, reply.Alike other → (left reply).Simulates related Eq (right other)
  | .transform left, .transform right =>
      ∀ reply other : Response, reply.Alike other → (left reply).Simulates related Eq (right other)
  | .node left, .node right => ∀ node, (left node).Simulates related Eq (right node)
  | .success left, .success right => ∀ node, (left node).Simulates related Eq (right node)
  | _, _ => False

theorem Hook.Alike.on {σ τ : Type} {related : σ → τ → Prop} {whole : S → T → Prop}
    {part : Part S σ} {other : Part T τ} {hook : Hook σ Act} {another : Hook τ Act}
    (alike : hook.Alike related another) (lawful : part.Lawful) (otherLawful : other.Lawful)
    (get : ∀ first second, whole first second → related (part.get first) (other.get second))
    (set : ∀ first second value changed, whole first second → related value changed →
      whole (part.set value first) (other.set changed second)) :
    (hook.on part).Alike whole (another.on other) := by
  cases hook <;> cases another <;> first
    | exact Proc.Simulates.on alike lawful otherLawful get set
    | exact fun node => (alike node).on lawful otherLawful get set
    | exact fun reply answer same => (alike reply answer same).on lawful otherLawful get set
    | cases alike

structure Workflow.Farewell.Alike (left right : Workflow.Farewell) : Prop where
  request : left.request.Alike right.request
  failure : left.failure = right.failure

inductive Visit.Alike : Visit Act → Visit Act → Prop where
  | start (request : Request) : Alike (.turn (.start request)) (.turn (.start request))
  | next {step other : ContinueNode Act} (actions : step.actions = other.actions)
      (template : step.template = other.template) : Alike (.turn (.next step)) (.turn (.next other))
  | signOff : Alike .signOff .signOff

def Upshot.attach (id : InstanceId) : Upshot Act → Upshot Act
  | .node made => .node (made.attach id)
  | .parting outcome => .parting outcome

/-- What calls to two workflows come to, equal but for the workflow it is made out for. -/
def Upshot.Twins (id other : InstanceId) (left right : Upshot Act) : Prop :=
  ∃ upshot : Upshot Act, left = upshot.attach id ∧ right = upshot.attach other

structure Workflow.Matched (related : S → T → Prop) (left : Workflow κ S Act)
    (right : Workflow κ' T Act) : Prop where
  timeout : left.timeout = right.timeout
  hooks : ∀ stage : Stage, stage.builds = false →
    List.Forall₂ (Hook.Alike related) ((left.hooks.stage stage).map Installed.work)
      ((right.hooks.stage stage).map Installed.work)
  start : ∀ request other : Request, request.Alike other →
    (left.runStart request).Simulates (Engine.Alike related) Request.Alike (right.runStart other)
  next : ∀ (step another : ContinueNode Act) (request other : Request), request.Alike other →
    (left.runNext step request).Simulates (Engine.Alike related) Request.Alike
      (right.runNext another other)
  signOff : (Workflow.signOffHooks 0 (Workflow.works left.hooks.signOff) ⟨.empty, none⟩ :
      Proc (Engine S Act) Workflow.Farewell).Simulates (Engine.Alike related)
    Workflow.Farewell.Alike
    (Workflow.signOffHooks 0 (Workflow.works right.hooks.signOff) ⟨.empty, none⟩ :
      Proc (Engine T Act) Workflow.Farewell)
  adapters : ∀ action, Option.Rel
    (fun adapt other => ∀ request, (adapt request).Simulates related Eq (other request))
    (left.adapter? action) (right.adapter? action)
  transport : ∀ (limit : Nat) (request other : Request), request.Alike other →
    (Proc.within limit (left.transport request)).Simulates related (Option.Rel Response.Alike)
      (Proc.within limit (right.transport other))

theorem Workflow.forall₂_works {W V : Type} {related : S → T → Prop} {hooks : List (Installed W)}
    {others : List (Installed V)} {wrap : W → Hook S Act} {otherWrap : V → Hook T Act}
    (alike : List.Forall₂ (Hook.Alike related)
      ((hooks.map fun installed => Installed.mk installed.owner (wrap installed.work)).map
        Installed.work)
      ((others.map fun installed => Installed.mk installed.owner (otherWrap installed.work)).map
        Installed.work)) :
    List.Forall₂ (fun work other => (wrap work).Alike related (otherWrap other)) (works hooks)
      (works others) := by
  rw [List.map_map, List.map_map, List.forall₂_map_left_iff, List.forall₂_map_right_iff] at alike
  unfold works
  rw [List.forall₂_map_left_iff, List.forall₂_map_right_iff]
  exact alike

namespace Workflow.Matched

variable {related : S → T → Prop} {left : Workflow κ S Act} {right : Workflow κ' T Act}

/-! ### Stages -/

theorem runInit (matched : left.Matched related right) :
    left.runInit.Simulates (Engine.Alike related) Eq right.runInit := by
  apply simulates_foldStage (fun _ _ => rfl) (fun _ _ => rfl) _ 0 0 rfl
  rw [List.forall₂_map_left_iff, List.forall₂_map_right_iff]
  exact (forall₂_works (matched.hooks .init rfl)).imp fun _ _ alike _ _ _ => alike

theorem ensureInit (matched : left.Matched related right) :
    left.ensureInit.Simulates (Engine.Alike related) Eq right.ensureInit := by
  apply Proc.simulates_state.bind
  intro engine other held
  rw [held.initialized]
  cases other.initialized with
  | true => exact Proc.simulates_done rfl
  | false =>
      apply matched.runInit.bind
      intro _ _ _
      apply Proc.simulates_modify
      intro first second held
      exact ⟨held.inner, rfl, held.sent⟩

theorem submission (matched : left.Matched related right) {step other : ContinueNode Act}
    (actions : step.actions = other.actions) (template : step.template = other.template) :
    (left.submission step).Simulates (Engine.Alike related) Eq (right.submission other) := by
  have same : List.Forall₂ Eq step.actions other.actions :=
    actions ▸ List.forall₂_same.mpr fun _ _ => rfl
  have alike : List.Forall₂ _ (left.adapters step) (right.adapters other) :=
    List.rel_filterMap (by rintro action _ rfl; exact matched.adapters action) same
  apply simulates_foldStage (fun _ _ => rfl) (fun _ _ => rfl) _ 0 0 template
  exact alike.imp fun _ _ adapt request _ same => same ▸ adapt request

theorem send (matched : left.Matched related right) {request other : Request}
    (alike : request.Alike other) :
    (left.send request).Simulates (Engine.Alike related) Response.Alike (right.send other) := by
  unfold Workflow.send
  rw [matched.timeout]
  have told : Option.Rel Request.Alike (Invocation.transport request : Invocation Act).sent?
      (Invocation.transport other : Invocation Act).sent? := .some alike
  apply (simulates_invoke told (matched.transport _ request other alike)).bind
  intro answer reply answers
  cases answers with
  | some replies => exact Proc.simulates_done replies
  | none => exact Proc.simulates_fail _

theorem runResponse (matched : left.Matched related right) {reply other : Response}
    (alike : reply.Alike other) :
    (left.runResponse reply).Simulates (Engine.Alike related) Eq (right.runResponse other) := by
  apply simulates_foldStage (fun _ _ => rfl) (fun _ _ => rfl) _ 0 0 rfl
  rw [List.forall₂_map_left_iff, List.forall₂_map_right_iff]
  exact (forall₂_works (matched.hooks .response rfl)).imp
    fun _ _ works _ _ _ => works reply other alike

theorem runTransform (matched : left.Matched related right) {reply other : Response}
    (alike : reply.Alike other) :
    (left.runTransform reply).Simulates (Engine.Alike related) Eq (right.runTransform other) := by
  unfold Workflow.runTransform
  rw [alike.status]
  apply (simulates_firstOf (fun _ => rfl) (fun _ => rfl) _ 0 0).bind
  · rintro found _ rfl
    cases found with
    | some node => exact Proc.simulates_done rfl
    | none => exact Proc.simulates_fail _
  · rw [List.forall₂_map_left_iff, List.forall₂_map_right_iff]
    exact (forall₂_works (matched.hooks .transform rfl)).imp
      fun _ _ works => works reply other alike

theorem runNode (matched : left.Matched related right) (node : Node Act) :
    (left.runNode node).Simulates (Engine.Alike related) Eq (right.runNode node) := by
  apply simulates_foldStage (fun _ _ => rfl) (fun _ _ => rfl) _ 0 0 rfl
  exact (forall₂_works (matched.hooks .node rfl)).imp fun _ _ works node _ same => same ▸ works node

theorem runSuccess (matched : left.Matched related right) (node : Node Act) :
    (left.runSuccess node).Simulates (Engine.Alike related) Eq (right.runSuccess node) := by
  cases node with
  | success node =>
      apply Proc.Simulates.bind
      · apply simulates_foldStage (fun _ _ => rfl) (fun _ _ => rfl) _ 0 0 rfl
        exact (forall₂_works (matched.hooks .success rfl)).imp
          fun _ _ works node _ same => same ▸ works node
      · rintro node _ rfl
        exact Proc.simulates_done rfl
  | _ => exact Proc.simulates_done rfl

theorem exchange (matched : left.Matched related right) {request other : Request}
    (alike : request.Alike other) :
    (left.exchange request).Simulates (Engine.Alike related) Eq (right.exchange other) := by
  apply (matched.send alike).bind
  intro reply answer alike
  apply (matched.runResponse alike).bind
  intro _ _ _
  apply (matched.runTransform alike).bind
  rintro node _ rfl
  apply (matched.runNode node).bind
  rintro node _ rfl
  exact matched.runSuccess node

theorem signOffSend (matched : left.Matched related right) {farewell other : Farewell}
    (alike : farewell.Alike other) :
    (left.signOffSend farewell).Simulates (Engine.Alike related) Farewell.Alike
      (right.signOffSend other) := by
  unfold Workflow.signOffSend
  rw [alike.request.url]
  split
  · apply (matched.send alike.request).attemptError.bind
    intro answer reply ends
    cases ends with
    | ok _ => exact Proc.simulates_done alike
    | error cause => exact Proc.simulates_done ⟨alike.request, rfl⟩
  · exact Proc.simulates_done alike

/-! ### Calls -/

theorem turn (matched : left.Matched related right) {work : Proc (Engine S Act) (Node Act)}
    {other : Proc (Engine T Act) (Node Act)}
    (alike : work.Simulates (Engine.Alike related) Eq other) :
    ((left.turn work).map .node).work.Simulates (Engine.Alike related)
      (Upshot.Twins left.id right.id) ((right.turn other).map .node).work := by
  have made : (left.turn work).work.Simulates (Engine.Alike related)
      (fun node another => Upshot.Twins left.id right.id (.node node) (.node another))
      (right.turn other).work := by
    apply matched.ensureInit.attempt.bind
    intro outcome another ends
    apply ((Proc.simulates_ofOutcome ends).bind fun _ _ _ => alike).attempt.bind
    intro outcome another ends
    apply Proc.simulates_done
    cases ends with
    | ok same =>
        cases same
        exact ⟨.node _, rfl, rfl⟩
    | error fault => exact ⟨.node (.failure fault.cause), rfl, rfl⟩
  rw [Call.work_map, Call.work_map]
  exact made.bind fun node another twins => Proc.simulates_done twins

theorem call (matched : left.Matched related right) {visit other : Visit Act}
    (alike : visit.Alike other) :
    (left.call visit).work.Simulates (Engine.Alike related) (Upshot.Twins left.id right.id)
      (right.call other).work := by
  cases alike with
  | start request =>
      apply matched.turn
      apply (matched.start request request (.refl request)).bind
      intro built another alike
      exact matched.exchange alike
  | next actions template =>
      apply matched.turn
      apply (matched.submission actions template).bind
      rintro request _ rfl
      apply (matched.next _ _ request request (.refl request)).bind
      intro built another alike
      exact matched.exchange alike
  | signOff =>
      rw [Workflow.call, Workflow.call, Call.work_map, Call.work_map]
      apply Proc.Simulates.bind
      · apply matched.ensureInit.attempt.bind
        intro outcome another ends
        apply ((Proc.simulates_ofOutcome ends).bind fun _ _ _ => matched.signOff.bind fun _ _ =>
          matched.signOffSend).attempt.bind
        intro outcome another ends
        have same : concludeSignOff outcome = concludeSignOff another := by
          cases ends with
          | error fault => rfl
          | @ok farewell another alike =>
              obtain ⟨request, failure⟩ := farewell
              obtain ⟨otherRequest, otherFailure⟩ := another
              cases alike.failure
              cases failure <;> rfl
        exact Proc.simulates_done same
      · rintro parting _ rfl
        exact Proc.simulates_done ⟨.parting parting, rfl, rfl⟩

end Workflow.Matched

/-! ### Trips -/

variable {ρ : Type}

/-- What a caller does: calls, those on nodes by the place of the node among all returned so
far, and something else in between. -/
inductive Errand (ρ Act : Type) where
  | start (request : Request)
  | next (index : Nat)
  | signOff
  | meanwhile (event : ρ)

namespace Workflow

def goOn (workflow : Workflow κ S Act) (node : Node Act) : Proc (Engine S Act) (Upshot Act) :=
  match node.onward with
  | .turn _ step => (workflow.call (.turn (.next step))).work
  | .failure cause => .done (.node (.failure cause))

/-- Does an errand, with the nodes returned so far. It comes to nothing if it is no call, or one
on a node that is not there. -/
def undertake (workflow : Workflow κ S Act) (happen : ρ → S → S) (nodes : List (Node Act)) :
    Errand ρ Act → Proc (Engine S Act) (Option (Upshot Act))
  | .start request =>
      (workflow.call (.turn (.start request))).work.bind fun upshot => .done (some upshot)
  | .next index =>
      match nodes[index]? with
      | some node => (workflow.goOn node).bind fun upshot => .done (some upshot)
      | none => .done none
  | .signOff => (workflow.call .signOff).work.bind fun upshot => .done (some upshot)
  | .meanwhile event =>
      (Proc.modify fun engine => { engine with inner := happen event engine.inner }).bind fun _ =>
        .done none

def trip (workflow : Workflow κ S Act) (happen : ρ → S → S) :
    List (Errand ρ Act) → List (Upshot Act) → Proc (Engine S Act) (List (Upshot Act))
  | [], upshots => .done upshots
  | errand :: rest, upshots =>
      (workflow.undertake happen (upshots.filterMap Upshot.node?) errand).bind fun made =>
        trip workflow happen rest (upshots ++ made.toList)

end Workflow

def Upshot.AllTwins (id other : InstanceId) (left right : List (Upshot Act)) : Prop :=
  ∃ upshots : List (Upshot Act), left = upshots.map (·.attach id) ∧
    right = upshots.map (·.attach other)

namespace Upshot

variable {id other : InstanceId}

private theorem AllTwins.append {left right : List (Upshot Act)}
    (twins : AllTwins id other left right)
    {made another : Option (Upshot Act)} (last : Option.Rel (Twins id other) made another) :
    AllTwins id other (left ++ made.toList) (right ++ another.toList) := by
  obtain ⟨upshots, rfl, rfl⟩ := twins
  cases last with
  | none => exact ⟨upshots, by simp, by simp⟩
  | some same =>
      obtain ⟨upshot, rfl, rfl⟩ := same
      exact ⟨upshots ++ [upshot], by simp, by simp⟩

private theorem filterMap_node?_attach (upshots : List (Upshot Act)) (id : InstanceId) :
    (upshots.map (·.attach id)).filterMap node? =
      (upshots.filterMap node?).map (·.attach id) := by
  rw [List.filterMap_map, List.map_filterMap]
  congr 1
  funext upshot
  cases upshot <;> rfl

end Upshot

private theorem Node.onward_attach (node : Node Act) (id : InstanceId) :
    (node.attach id).onward =
      match node.next? with
      | none => .failure (.terminalNode node.kind)
      | some step => .turn id (step.attach id) := by
  unfold Node.onward
  rw [Node.next?_attach]
  cases node.next? with
  | none => cases node <;> rfl
  | some step => rfl

namespace Workflow

variable {related : S → T → Prop} {left : Workflow κ S Act} {right : Workflow κ' T Act}

theorem Matched.goOn (matched : left.Matched related right) (node : Node Act) :
    (left.goOn (node.attach left.id)).Simulates (Engine.Alike related)
      (Upshot.Twins left.id right.id) (right.goOn (node.attach right.id)) := by
  unfold Workflow.goOn
  rw [Node.onward_attach, Node.onward_attach]
  cases node.next? with
  | none => exact Proc.simulates_done ⟨.node (.failure _), rfl, rfl⟩
  | some step => exact matched.call (.next rfl rfl)

variable {happen : ρ → S → S} {happenToo : ρ → T → T}

theorem Matched.undertake (matched : left.Matched related right)
    (happens : ∀ event first second, related first second →
      related (happen event first) (happenToo event second))
    (nodes : List (Node Act)) (errand : Errand ρ Act) :
    (left.undertake happen (nodes.map (·.attach left.id)) errand).Simulates (Engine.Alike related)
      (Option.Rel (Upshot.Twins left.id right.id))
      (right.undertake happenToo (nodes.map (·.attach right.id)) errand) := by
  cases errand with
  | start request =>
      exact (matched.call (.start request)).bind fun _ _ twins => Proc.simulates_done (.some twins)
  | signOff =>
      exact (matched.call .signOff).bind fun _ _ twins => Proc.simulates_done (.some twins)
  | meanwhile event =>
      apply Proc.Simulates.bind (Proc.simulates_modify _)
      · intro _ _ _
        exact Proc.simulates_done .none
      · intro engine other held
        exact ⟨happens event _ _ held.inner, held.initialized, held.sent⟩
  | next index =>
      simp only [Workflow.undertake, List.getElem?_map]
      cases nodes[index]? with
      | none => exact Proc.simulates_done .none
      | some node =>
          exact (matched.goOn node).bind fun _ _ twins => Proc.simulates_done (.some twins)

theorem Matched.trip (matched : left.Matched related right)
    (happens : ∀ event first second, related first second →
      related (happen event first) (happenToo event second))
    (errands : List (Errand ρ Act)) {upshots others : List (Upshot Act)}
    (twins : Upshot.AllTwins left.id right.id upshots others) :
    (left.trip happen errands upshots).Simulates (Engine.Alike related)
      (Upshot.AllTwins left.id right.id) (right.trip happenToo errands others) := by
  induction errands generalizing upshots others with
  | nil => exact Proc.simulates_done twins
  | cons errand rest ih =>
      apply Proc.Simulates.bind
      · obtain ⟨made, rfl, rfl⟩ := twins
        rw [Upshot.filterMap_node?_attach, Upshot.filterMap_node?_attach]
        exact matched.undertake happens _ errand
      · intro made another last
        exact ih (twins.append last)

private theorem exists_run_goOn (workflow : Workflow κ S Act) (node : Node Act)
    (engine : Engine S Act) :
    ∃ upshot after, (workflow.goOn node).run engine = (.ok upshot, after) := by
  unfold goOn
  cases node.onward with
  | failure cause => exact ⟨_, engine, rfl⟩
  | turn owner step =>
      obtain ⟨answer, ran, _⟩ := workflow.run_visit (.turn (.next step)) engine
      exact ⟨answer, _, ran⟩

private theorem exists_run_undertake (workflow : Workflow κ S Act) (happen : ρ → S → S)
    (nodes : List (Node Act)) (errand : Errand ρ Act) (engine : Engine S Act) :
    ∃ made after, (workflow.undertake happen nodes errand).run engine = (.ok made, after) := by
  have answered : ∀ {work : Proc (Engine S Act) (Upshot Act)} {upshot after},
      work.run engine = (.ok upshot, after) →
        (work.bind fun upshot => .done (some upshot)).run engine = (.ok (some upshot), after) := by
    intro work upshot after ran
    rw [Proc.run_bind, ran]
    rfl
  cases errand with
  | start request =>
      obtain ⟨answer, ran, _⟩ := workflow.run_visit (.turn (.start request)) engine
      exact ⟨_, _, answered ran⟩
  | signOff =>
      obtain ⟨answer, ran, _⟩ := workflow.run_visit .signOff engine
      exact ⟨_, _, answered ran⟩
  | meanwhile event => exact ⟨none, _, rfl⟩
  | next index =>
      simp only [undertake]
      cases nodes[index]? with
      | none => exact ⟨none, engine, rfl⟩
      | some node =>
          obtain ⟨upshot, after, ran⟩ := workflow.exists_run_goOn node engine
          exact ⟨_, _, answered ran⟩

/-- A trip comes to something, whatever its calls are answered. -/
theorem exists_run_trip (workflow : Workflow κ S Act) (happen : ρ → S → S)
    (errands : List (Errand ρ Act)) (upshots : List (Upshot Act)) (engine : Engine S Act) :
    ∃ made after, (workflow.trip happen errands upshots).run engine = (.ok made, after) := by
  induction errands generalizing upshots engine with
  | nil => exact ⟨upshots, engine, rfl⟩
  | cons errand rest ih =>
      obtain ⟨made, after, ran⟩ := workflow.exists_run_undertake happen
        (upshots.filterMap Upshot.node?) errand engine
      rw [trip, Proc.run_bind, ran]
      exact ih (upshots ++ made.toList) after

end Workflow

end GuidedLogin
