/-
Workflows that mirror each other. One workflow mirrors another if its hooks, its adapters and
its transport are those of the other, at work on states of another kind, and keep in step with
them. Then the same calls to both, in progress at once and going on in the same way, keep in
step (`Workflow.Mirrors.move`).
-/
import GuidedLogin.Proofs.InStep
import GuidedLogin.Proofs.Interleaving

namespace GuidedLogin

variable {κ κ' σ τ S T Act α β : Type}

/-! ### Lists that agree item by item -/

section Lists

variable {V W : Type} {alike : V → W → Prop} {first : List V} {second : List W}

theorem forall₂_snoc (held : List.Forall₂ alike first second) {last : V} {other : W}
    (ends : alike last other) : List.Forall₂ alike (first ++ [last]) (second ++ [other]) :=
  List.rel_append held (.cons ends .nil)

private theorem forall₂_set (held : List.Forall₂ alike first second) (index : Nat) {value : V}
    {other : W}
    (here : alike value other) :
    List.Forall₂ alike (first.set index value) (second.set index other) := by
  induction held generalizing index with
  | nil => exact .nil
  | cons head tail ih =>
      cases index with
      | zero => exact .cons here tail
      | succ index => exact .cons head (ih index)

theorem forall₂_getElem? (held : List.Forall₂ alike first second) (index : Nat) :
    Option.Rel alike first[index]? second[index]? := by
  induction held generalizing index with
  | nil => exact .none
  | cons head tail ih =>
      cases index with
      | zero => exact .some head
      | succ index => exact ih index

theorem agree_works {hooks : List (Installed V)} {twins : List (Installed W)}
    (held : List.Forall₂ (fun hook twin => alike hook.work twin.work) hooks twins) :
    List.Forall₂ alike (Workflow.works hooks) (Workflow.works twins) := by
  rw [Workflow.works, Workflow.works, List.forall₂_map_left_iff, List.forall₂_map_right_iff]
  exact held

theorem agree_works_map {V' W' : Type} {further : V' → W' → Prop} {form : V → V'}
    {other : W → W'} {hooks : List (Installed V)} {twins : List (Installed W)}
    (held : List.Forall₂ (fun hook twin => further (form hook.work) (other twin.work)) hooks twins) :
    List.Forall₂ further ((Workflow.works hooks).map form) ((Workflow.works twins).map other) := by
  rw [List.forall₂_map_left_iff, List.forall₂_map_right_iff]
  exact agree_works held

end Lists

/-! ### Hooks and workflows -/

def Hook.translate (form : ∀ {α : Type}, Proc σ α → Proc τ α) : Hook σ Act → Hook τ Act
  | .init work => .init (form work)
  | .start work => .start fun request => form (work request)
  | .next work => .next fun node request => form (work node request)
  | .response work => .response fun response => form (work response)
  | .transform work => .transform fun response => form (work response)
  | .node work => .node fun node => form (work node)
  | .success work => .success fun node => form (work node)
  | .signOff work => .signOff fun request => form (work request)

structure HookTable.Tracks (tie : Tie S T) (left : HookTable S Act) (right : HookTable T Act) :
    Prop where
  init : List.Forall₂ (fun hook twin => hook.work.Tracks tie twin.work) left.init right.init
  start : List.Forall₂ (fun hook twin => ∀ request,
    (hook.work request).Tracks tie (twin.work request)) left.start right.start
  next : List.Forall₂ (fun hook twin => ∀ node request,
    (hook.work node request).Tracks tie (twin.work node request)) left.next right.next
  response : List.Forall₂ (fun hook twin => ∀ response,
    (hook.work response).Tracks tie (twin.work response)) left.response right.response
  transform : List.Forall₂ (fun hook twin => ∀ response,
    (hook.work response).Tracks tie (twin.work response)) left.transform right.transform
  node : List.Forall₂ (fun hook twin => ∀ node,
    (hook.work node).Tracks tie (twin.work node)) left.node right.node
  success : List.Forall₂ (fun hook twin => ∀ node,
    (hook.work node).Tracks tie (twin.work node)) left.success right.success
  signOff : List.Forall₂ (fun hook twin => ∀ request,
    (hook.work request).Tracks tie (twin.work request)) left.signOff right.signOff

namespace HookTable

variable {tie : Tie S T} {left : HookTable S Act} {right : HookTable T Act}

theorem tracks_empty : (empty : HookTable S Act).Tracks tie (empty : HookTable T Act) :=
  ⟨.nil, .nil, .nil, .nil, .nil, .nil, .nil, .nil⟩

theorem Tracks.install (tracks : left.Tracks tie right) (owner : Nat)
    {form : ∀ {α : Type}, Proc σ α → Proc S α} {twin : Part T σ}
    (forms : ∀ {α : Type} (work : Proc σ α), (form work).Tracks tie (work.on twin))
    (hook : Hook σ Act) :
    (left.install owner (hook.translate form)).Tracks tie (right.install owner (hook.on twin)) := by
  cases hook with
  | init work => exact { tracks with init := forall₂_snoc tracks.init (forms work) }
  | start work => exact { tracks with start := forall₂_snoc tracks.start fun _ => forms _ }
  | next work => exact { tracks with next := forall₂_snoc tracks.next fun _ _ => forms _ }
  | response work => exact { tracks with response := forall₂_snoc tracks.response fun _ => forms _ }
  | transform work =>
      exact { tracks with transform := forall₂_snoc tracks.transform fun _ => forms _ }
  | node work => exact { tracks with node := forall₂_snoc tracks.node fun _ => forms _ }
  | success work => exact { tracks with success := forall₂_snoc tracks.success fun _ => forms _ }
  | signOff work => exact { tracks with signOff := forall₂_snoc tracks.signOff fun _ => forms _ }

theorem Tracks.installAll (tracks : left.Tracks tie right) (owner : Nat)
    {form : ∀ {α : Type}, Proc σ α → Proc S α} {twin : Part T σ}
    (forms : ∀ {α : Type} (work : Proc σ α), (form work).Tracks tie (work.on twin))
    (hooks : List (Hook σ Act)) :
    (left.installAll owner (hooks.map (Hook.translate form))).Tracks tie
      (right.installAll owner (hooks.map (Hook.on twin))) := by
  induction hooks generalizing left right with
  | nil => exact tracks
  | cons hook rest ih => exact ih (tracks.install owner forms hook)

end HookTable

structure Call.Tracks (tie : Tie σ τ) (left : Call σ α) (right : Call τ α) : Prop where
  guarded : left.guarded.Tracks tie right.guarded
  body : ∀ outcome, (left.body outcome).Tracks tie (right.body outcome)

private theorem Call.Tracks.map {tie : Tie σ τ} {left : Call σ α} {right : Call τ α}
    (tracks : left.Tracks tie right) (wrap : α → β) :
    (left.map wrap).Tracks tie (right.map wrap) :=
  ⟨tracks.guarded, fun outcome => (tracks.body outcome).bind fun value =>
    Proc.tracks_done (wrap value)⟩

structure Workflow.Mirrors (tie : Tie S T) (left : Workflow κ S Act) (right : Workflow κ' T Act) :
    Prop where
  id : left.id = right.id
  timeout : left.timeout = right.timeout
  hooks : left.hooks.Tracks tie right.hooks
  transport : ∀ request, (left.transport request).Tracks tie (right.transport request)
  adapters : ∀ action, Option.Rel
    (fun adapt twin => ∀ request, (adapt request).Tracks tie (twin request))
    (left.adapter? action) (right.adapter? action)

namespace Workflow.Mirrors

variable {tie : Tie S T} {left : Workflow κ S Act} {right : Workflow κ' T Act}

theorem ensureInit (mirrors : left.Mirrors tie right) :
    left.ensureInit.Tracks tie.engine right.ensureInit := by
  intro engine other tied
  refine .readLeft (.readRight ?_)
  change Proc.InStep tie.engine engine (if engine.initialized then _ else _) other
    (if other.initialized then _ else _)
  rw [tied.initialized]
  split
  · exact .done () tied
  · refine Proc.Tracks.bind ?_ ?_ engine other tied
    · refine tracks_foldStage _ ?_ 0 ()
      exact agree_works_map (mirrors.hooks.init.imp fun _ _ track _ => track)
    · intro _
      refine Proc.tracks_modify ?_ ?_
      · exact fun engine => tie.refl engine.inner
      · exact fun engine other tied => ⟨tied.inner, rfl, tied.trace⟩

theorem runStart (mirrors : left.Mirrors tie right) (request : Request) :
    (left.runStart request).Tracks tie.engine (right.runStart request) := by
  exact tracks_foldStage _ (agree_works mirrors.hooks.start) 0 request

theorem submission (mirrors : left.Mirrors tie right) (node : ContinueNode Act) :
    (left.submission node).Tracks tie.engine (right.submission node) := by
  refine tracks_foldStage _ ?_ 0 node.template
  have same : List.Forall₂ Eq node.actions node.actions := List.forall₂_same.mpr fun _ _ => rfl
  exact List.rel_filterMap (by rintro action _ rfl; exact mirrors.adapters action) same

theorem runNext (mirrors : left.Mirrors tie right) (node : ContinueNode Act) (request : Request) :
    (left.runNext node request).Tracks tie.engine (right.runNext node request) := by
  refine tracks_foldStage _ ?_ 0 request
  exact agree_works_map (mirrors.hooks.next.imp fun _ _ track => track node)

theorem send (mirrors : left.Mirrors tie right) (request : Request) :
    (left.send request).Tracks tie.engine (right.send request) := by
  unfold Workflow.send
  rw [mirrors.timeout]
  refine (tracks_invoke _ ((mirrors.transport request).within _)).bind ?_
  rintro (_ | response)
  · exact Proc.tracks_fail _
  · exact Proc.tracks_done response

theorem exchange (mirrors : left.Mirrors tie right) (request : Request) :
    (left.exchange request).Tracks tie.engine (right.exchange request) := by
  refine (mirrors.send request).bind fun response => Proc.Tracks.bind ?_ fun _ =>
    Proc.Tracks.bind (Proc.Tracks.bind ?_ ?_) fun node => Proc.Tracks.bind ?_ fun made => ?_
  · refine tracks_foldStage _ ?_ 0 ()
    exact agree_works_map (mirrors.hooks.response.imp fun _ _ track _ => track response)
  · refine tracks_firstOf _ ?_ 0
    exact agree_works_map (mirrors.hooks.transform.imp fun _ _ track => track response)
  · rintro (_ | node)
    · exact Proc.tracks_fail _
    · exact Proc.tracks_done node
  · exact tracks_foldStage _ (agree_works mirrors.hooks.node) 0 node
  · cases made with
    | success node =>
        exact (tracks_foldStage _ (agree_works mirrors.hooks.success) 0 node).bind fun _ =>
          Proc.tracks_done _
    | continuation node => exact Proc.tracks_done _
    | error node => exact Proc.tracks_done _
    | failure cause => exact Proc.tracks_done _

theorem turn (mirrors : left.Mirrors tie right) {work : Proc (Engine S Act) (Node Act)}
    {twin : Proc (Engine T Act) (Node Act)} (tracks : work.Tracks tie.engine twin) :
    (left.turn work).Tracks tie.engine (right.turn twin) := by
  refine ⟨mirrors.ensureInit, fun outcome => ?_⟩
  refine ((Proc.tracks_ofOutcome outcome).bind fun _ => tracks).attempt.bind fun made => ?_
  have concludes : left.conclude made = right.conclude made := by
    cases made with
    | ok node => exact congrArg node.attach mirrors.id
    | error fault => rfl
  rw [concludes]
  exact Proc.tracks_done _

theorem signOff (mirrors : left.Mirrors tie right) :
    left.signOff.Tracks tie.engine right.signOff := by
  refine ⟨mirrors.ensureInit, fun outcome => ?_⟩
  refine Proc.Tracks.bind (Proc.Tracks.attempt ((Proc.tracks_ofOutcome outcome).bind fun _ =>
    (tracks_signOffHooks (agree_works mirrors.hooks.signOff) 0 _).bind fun farewell => ?_))
    fun _ => Proc.tracks_done _
  unfold signOffSend
  split
  · refine (mirrors.send farewell.request).attemptError.bind ?_
    rintro (cause | response)
    · exact Proc.tracks_done _
    · exact Proc.tracks_done _
  · exact Proc.tracks_done farewell

theorem call (mirrors : left.Mirrors tie right) (visit : Visit Act) :
    (left.call visit).Tracks tie.engine (right.call visit) := by
  rcases visit with (request | step) | _
  · exact (mirrors.turn ((mirrors.runStart request).bind mirrors.exchange)).map _
  · exact (mirrors.turn ((mirrors.submission step).bind fun request =>
      (mirrors.runNext step request).bind mirrors.exchange)).map _
  · exact mirrors.signOff.map _

end Workflow.Mirrors

/-! ### Calls in progress -/

inductive Task.InStep (tie : Tie σ τ) : Task σ α → Task τ α → Prop where
  | pending {call : Call σ α} {twin : Call τ α} (tracks : call.Tracks tie twin) :
      InStep tie (.pending call) (.pending twin)
  | guarding (due : Nat) {rest : Proc σ (Except Fault Unit)} {twin : Proc τ (Except Fault Unit)}
      {body : Except Fault Unit → Proc σ α} {onward : Except Fault Unit → Proc τ α}
      (tracks : rest.Tracks tie twin) (later : ∀ outcome, (body outcome).Tracks tie (onward outcome)) :
      InStep tie (.guarding due rest body) (.guarding due twin onward)
  | working (due : Nat) {rest : Proc σ α} {twin : Proc τ α} (tracks : rest.Tracks tie twin) :
      InStep tie (.working due rest) (.working due twin)
  | finished (outcome : Except Fault α) : InStep tie (.finished outcome) (.finished outcome)
  | dropped : InStep tie .dropped .dropped

structure Pool.InStep (tie : Tie σ τ) (pool : Pool σ α) (twin : Pool τ α) : Prop where
  tasks : List.Forall₂ (Task.InStep tie) pool.tasks twin.tasks
  holder : pool.holder = twin.holder
  now : pool.now = twin.now
  state : tie.related pool.state twin.state

namespace Pool.InStep

variable {tie : Tie σ τ} {pool : Pool σ α} {twin : Pool τ α}

theorem setTask (inStep : pool.InStep tie twin) (index : Nat) {task : Task σ α} {other : Task τ α}
    (here : task.InStep tie other) :
    (pool.setTask index task).InStep tie (twin.setTask index other) :=
  { inStep with tasks := forall₂_set inStep.tasks index here }

theorem work (inStep : pool.InStep tie twin) (index : Nat) {rest : Proc σ α} {other : Proc τ α}
    (tracks : rest.Tracks tie other) :
    tie.spares pool.state (pool.work index rest).state ∧
      (pool.work index rest).InStep tie (twin.work index other) := by
  obtain ⟨spared, tied, halted⟩ := (tracks _ _ inStep.state).advance
  unfold Pool.work
  rcases ran : rest.advance pool.state with ⟨halt, state⟩
  rcases ranToo : other.advance twin.state with ⟨reached, after⟩
  rw [ran] at spared
  rw [ran, ranToo] at tied halted
  have goesOn : Pool.InStep tie { pool with state := state } { twin with state := after } :=
    { inStep with state := tied }
  cases halted with
  | done value => exact ⟨spared, goesOn.setTask index (.finished _)⟩
  | failed fault => exact ⟨spared, goesOn.setTask index (.finished _)⟩
  | waiting duration tracks =>
      dsimp only
      rw [inStep.now] at goesOn ⊢
      exact ⟨spared, goesOn.setTask index (.working _ tracks)⟩

theorem guard (inStep : pool.InStep tie twin) (index : Nat) {rest : Proc σ (Except Fault Unit)}
    {other : Proc τ (Except Fault Unit)} (tracks : rest.Tracks tie other)
    {body : Except Fault Unit → Proc σ α} {onward : Except Fault Unit → Proc τ α}
    (later : ∀ outcome, (body outcome).Tracks tie (onward outcome)) :
    tie.spares pool.state (pool.guard index rest body).state ∧
      (pool.guard index rest body).InStep tie (twin.guard index other onward) := by
  obtain ⟨spared, tied, halted⟩ := (tracks _ _ inStep.state).advance
  unfold Pool.guard
  rcases ran : rest.advance pool.state with ⟨halt, state⟩
  rcases ranToo : other.advance twin.state with ⟨reached, after⟩
  rw [ran] at spared
  rw [ran, ranToo] at tied halted
  have goesOn (holder : Option Nat) :
      Pool.InStep tie { pool with state := state, holder := holder }
        { twin with state := after, holder := holder } :=
    ⟨inStep.tasks, rfl, inStep.now, tied⟩
  cases halted with
  | done outcome =>
      obtain ⟨spares, reached⟩ := (goesOn none).work index (later outcome)
      exact ⟨tie.trans spared spares, reached⟩
  | failed fault =>
      obtain ⟨spares, reached⟩ := (goesOn none).work index (later (.error fault))
      exact ⟨tie.trans spared spares, reached⟩
  | waiting duration tracks =>
      dsimp only
      rw [inStep.now] at goesOn ⊢
      exact ⟨spared, (goesOn (some index)).setTask index (.guarding _ tracks later)⟩

theorem poll (inStep : pool.InStep tie twin) (index : Nat) :
    tie.spares pool.state (pool.poll index).state ∧
      (pool.poll index).InStep tie (twin.poll index) := by
  have idle : tie.spares pool.state pool.state ∧ pool.InStep tie twin :=
    ⟨tie.refl pool.state, inStep⟩
  unfold Pool.poll
  have placed := forall₂_getElem? inStep.tasks index
  generalize pool.tasks[index]? = task at placed ⊢
  generalize twin.tasks[index]? = other at placed ⊢
  rw [inStep.now, inStep.holder]
  cases placed with
  | none => exact idle
  | some here =>
      cases here with
      | pending tracks =>
          dsimp only
          split
          · exact inStep.guard index tracks.guarded.attempt tracks.body
          · exact idle
      | guarding due tracks later =>
          dsimp only
          split
          · exact inStep.guard index tracks later
          · exact idle
      | working due tracks =>
          dsimp only
          split
          · exact inStep.work index tracks
          · exact idle
      | finished outcome => exact idle
      | dropped => exact idle

theorem drop (inStep : pool.InStep tie twin) (index : Nat) :
    (pool.drop index).state = pool.state ∧ (pool.drop index).InStep tie (twin.drop index) := by
  unfold Pool.drop
  have placed := forall₂_getElem? inStep.tasks index
  generalize pool.tasks[index]? = task at placed ⊢
  generalize twin.tasks[index]? = other at placed ⊢
  cases placed with
  | none => exact ⟨rfl, inStep⟩
  | some here =>
      cases here with
      | pending tracks => exact ⟨rfl, inStep.setTask index .dropped⟩
      | guarding due tracks later =>
          have freed : Pool.InStep tie { pool with holder := none } { twin with holder := none } :=
            { inStep with holder := rfl }
          exact ⟨rfl, freed.setTask index .dropped⟩
      | working due tracks => exact ⟨rfl, inStep.setTask index .dropped⟩
      | finished outcome => exact ⟨rfl, inStep⟩
      | dropped => exact ⟨rfl, inStep⟩

theorem join (inStep : pool.InStep tie twin) {call : Call σ α} {other : Call τ α}
    (tracks : call.Tracks tie other) : (pool.join call).InStep tie (twin.join other) :=
  { inStep with tasks := forall₂_snoc inStep.tasks (.pending tracks) }

theorem outcomes (inStep : pool.InStep tie twin) :
    pool.tasks.map Task.outcome? = twin.tasks.map Task.outcome? := by
  rw [← List.forall₂_eq_eq_eq, List.forall₂_map_left_iff, List.forall₂_map_right_iff]
  refine inStep.tasks.imp ?_
  intro task other here
  cases here <;> rfl

end Pool.InStep

inductive Deed (Act : Type) where
  | call (visit : Visit Act)
  | poll (index : Nat)
  | drop (index : Nat)

def Deed.move : Deed Act → Move S Act
  | .call visit => .join visit
  | .poll index => .poll index
  | .drop index => .drop index

theorem Workflow.Mirrors.move {tie : Tie S T} {left : Workflow κ S Act} {right : Workflow κ' T Act}
    (mirrors : left.Mirrors tie right) {crowd : Crowd S Act} {twin : Crowd T Act}
    (inStep : crowd.InStep tie.engine twin) (deed : Deed Act) :
    tie.spares crowd.state.inner (left.move crowd deed.move).state.inner ∧
      (left.move crowd deed.move).InStep tie.engine (right.move twin deed.move) := by
  cases deed with
  | call visit => exact ⟨tie.refl _, inStep.join (mirrors.call visit)⟩
  | poll index => exact inStep.poll index
  | drop index =>
      obtain ⟨same, dropped⟩ := inStep.drop index
      refine ⟨?_, dropped⟩
      change tie.spares crowd.state.inner (crowd.drop index).state.inner
      rw [same]
      exact tie.refl _

end GuidedLogin
