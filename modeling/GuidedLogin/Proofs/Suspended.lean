/-
Work that waits, and goes on in a state that others have changed meanwhile. A run over
the initial hooks that waits is the rest of one hook and the hooks behind it (`pursue`),
and goes on where it stands. What a call does once the initial hooks have succeeded adds
other invocations to the trace and nothing else (`Tame`).
-/
import GuidedLogin.Proofs.History

namespace GuidedLogin

variable {κ S Act α β : Type}

namespace Workflow

/-! ### Runs over the initial hooks -/

/-- The rest of a run over the initial hooks: the rest of one, and those behind it. -/
def pursue (position : Nat) (later : List (Unit → Proc S Unit)) (rest : Proc S Unit) :
    Proc (Engine S Act) (Except Fault Unit) :=
  ((rest.on Engine.innerPart).bind fun _ =>
    (foldStage (fun position _ => .init position) position later ()).bind fun _ =>
      Proc.modify fun engine => { engine with initialized := true }).attempt

/-- How far a run over the initial hooks has come where it can go no further by itself. -/
def PursuedTo (hooks position : Nat) :
    Halt (Engine S Act) (Except Fault Unit) → Engine S Act → Prop
  | .waiting _ rest, after => after.initialized = false ∧ 0 < position ∧
      ∃ later work, rest = pursue position later work ∧ position + later.length = hooks
  | .done (.ok _), after => after.initialized = true ∧ position = hooks
  | .done (.error _), after => after.initialized = false ∧ 0 < position
  | .failed _, _ => False

private theorem advance_pursue_nil (position : Nat) (engine : Engine S Act) :
    (pursue position [] (.done ())).advance engine =
      (.done (.ok ()), { engine with initialized := true }) := rfl

theorem advance_pursue_cons (position : Nat) (work : Unit → Proc S Unit)
    (later : List (Unit → Proc S Unit)) (engine : Engine S Act) :
    (pursue position (work :: later) (.done ())).advance engine =
      (pursue (position + 1) later (work ())).advance
        { engine with trace := engine.trace ++ [.init position] } := by
  unfold pursue
  conv => rhs; rw [← Proc.bind_assoc]
  rfl

private theorem advance_pursue_rest (position : Nat) (later : List (Unit → Proc S Unit))
    (rest : Proc S Unit) (engine : Engine S Act) :
    ∃ inner,
      (pursue position later rest).advance engine =
          (pursue position later (.done ())).advance { engine with inner := inner } ∨
        (∃ fault, (pursue position later rest).advance engine =
          (.done (.error fault), { engine with inner := inner })) ∨
        ∃ duration work, (pursue position later rest).advance engine =
          (.waiting duration (pursue position later work), { engine with inner := inner }) := by
  induction rest generalizing engine with
  | done value => exact ⟨engine.inner, Or.inl rfl⟩
  | fail fault => exact ⟨engine.inner, Or.inr (Or.inl ⟨fault, rfl⟩)⟩
  | read next ih => exact ih engine.inner engine
  | write state next ih => exact ih { engine with inner := state }
  | wait duration next => exact ⟨engine.inner, Or.inr (Or.inr ⟨duration, next, rfl⟩)⟩

/-- A run over the initial hooks invokes some more of them, one after another. -/
theorem advance_pursue (later : List (Unit → Proc S Unit)) (position : Nat) (rest : Proc S Unit)
    (engine : Engine S Act) (begun : 0 < position) (uninitialized : engine.initialized = false) :
    ∃ count, count ≤ later.length ∧
      ((pursue position later rest).advance engine).2.trace =
        engine.trace ++ (List.range' position count).map .init ∧
      PursuedTo (position + later.length) (position + count)
        ((pursue position later rest).advance engine).1
        ((pursue position later rest).advance engine).2 := by
  induction later generalizing position rest engine with
  | nil =>
      refine ⟨0, Nat.le_refl 0, ?_⟩
      obtain ⟨inner, ran | ⟨fault, ran⟩ | ⟨duration, work, ran⟩⟩ :=
        advance_pursue_rest position [] rest engine
      · rw [ran, advance_pursue_nil]
        exact ⟨by simp, rfl, rfl⟩
      · rw [ran]
        exact ⟨by simp, uninitialized, begun⟩
      · rw [ran]
        exact ⟨by simp, uninitialized, begun, [], work, rfl, rfl⟩
  | cons work later ih =>
      obtain ⟨inner, ran | ⟨fault, ran⟩ | ⟨duration, work', ran⟩⟩ :=
        advance_pursue_rest position (work :: later) rest engine
      · rw [ran, advance_pursue_cons]
        obtain ⟨count, within, traced, pursued⟩ := ih (position + 1) (work ())
          ⟨inner, engine.initialized, engine.trace ++ [.init position]⟩ (Nat.succ_pos position)
          uninitialized
        refine ⟨count + 1, Nat.succ_le_succ within, ?_, ?_⟩
        · rw [traced, List.range'_succ, List.append_assoc]
          rfl
        · have total : position + (work :: later).length = position + 1 + later.length := by
            rw [List.length_cons]
            omega
          have place : position + (count + 1) = position + 1 + count := by omega
          rw [total, place]
          exact pursued
      · rw [ran]
        exact ⟨0, Nat.zero_le _, by simp, uninitialized, begun⟩
      · rw [ran]
        exact ⟨0, Nat.zero_le _, by simp, uninitialized, begun, work :: later, work', rfl, rfl⟩

def initWorks (workflow : Workflow κ S Act) : List (Unit → Proc S Unit) :=
  (works workflow.hooks.init).map fun work _ => work

private theorem length_initWorks (workflow : Workflow κ S Act) :
    workflow.initWorks.length = workflow.hooks.init.length := by
  rw [initWorks, List.length_map, works, List.length_map]

private theorem advance_ensureInit (workflow : Workflow κ S Act) (engine : Engine S Act)
    (uninitialized : engine.initialized = false) :
    workflow.ensureInit.attempt.advance engine =
      (pursue 0 workflow.initWorks (.done ())).advance engine := by
  change ((if engine.initialized then _ else _ : Proc (Engine S Act) Unit).attempt).advance engine = _
  rw [if_neg (by simp [uninitialized])]
  rfl

theorem advance_ensureInit_of_initialized (workflow : Workflow κ S Act) (engine : Engine S Act)
    (initialized : engine.initialized = true) :
    workflow.ensureInit.attempt.advance engine = (.done (.ok ()), engine) := by
  change ((if engine.initialized then _ else _ : Proc (Engine S Act) Unit).attempt).advance engine = _
  rw [if_pos initialized]
  rfl

theorem advance_begun (workflow : Workflow κ S Act) (engine : Engine S Act)
    (uninitialized : engine.initialized = false) :
    ∃ count, count ≤ workflow.hooks.init.length ∧
      (workflow.ensureInit.attempt.advance engine).2.trace =
        engine.trace ++ (List.range' 0 count).map .init ∧
      PursuedTo workflow.hooks.init.length count
        (workflow.ensureInit.attempt.advance engine).1
        (workflow.ensureInit.attempt.advance engine).2 := by
  rw [advance_ensureInit workflow engine uninitialized, ← length_initWorks]
  cases workflow.initWorks with
  | nil => exact ⟨0, Nat.le_refl 0, by simp [advance_pursue_nil], rfl, rfl⟩
  | cons work later =>
      rw [advance_pursue_cons]
      obtain ⟨count, within, traced, pursued⟩ := advance_pursue later 1 (work ())
        ⟨engine.inner, engine.initialized, engine.trace ++ [.init 0]⟩ Nat.one_pos uninitialized
      refine ⟨1 + count, ?_, ?_, ?_⟩
      · rw [List.length_cons]
        omega
      · rw [traced, Nat.add_comm 1 count, List.range'_succ, List.append_assoc]
        rfl
      · rw [List.length_cons, Nat.add_comm later.length 1]
        exact pursued

end Workflow

/-! ### Work that only adds to the trace -/

structure Engine.Extends (may : Invocation Act → Prop) (before after : Engine S Act) : Prop where
  initialized : after.initialized = before.initialized
  traced : ∃ fresh, after.trace = before.trace ++ fresh ∧ ∀ invocation ∈ fresh, may invocation

theorem Engine.extends_refl (may : Invocation Act → Prop) (engine : Engine S Act) :
    engine.Extends may engine :=
  ⟨rfl, [], (List.append_nil _).symm, fun _ member => absurd member List.not_mem_nil⟩

theorem Engine.Extends.trans {may : Invocation Act → Prop} {first second third : Engine S Act}
    (earlier : first.Extends may second) (later : second.Extends may third) :
    first.Extends may third := by
  obtain ⟨fresh, traced, allowed⟩ := earlier.traced
  obtain ⟨more, moreTraced, moreAllowed⟩ := later.traced
  refine ⟨later.initialized.trans earlier.initialized, fresh ++ more, ?_, ?_⟩
  · rw [moreTraced, traced, List.append_assoc]
  · intro invocation member
    rcases List.mem_append.mp member with inFresh | inMore
    · exact allowed invocation inFresh
    · exact moreAllowed invocation inMore

namespace Proc

variable {may : Invocation Act → Prop}

/-- Every step of work extends the state it finds, and so does the rest of it in any state
that there is behind a wait. -/
def Grows (may : Invocation Act → Prop) : Proc (Engine S Act) α → Engine S Act → Prop
  | .done _, _ => True
  | .fail _, _ => True
  | .read next, engine => (next engine).Grows may engine
  | .write state next, engine => engine.Extends may state ∧ next.Grows may state
  | .wait _ next, _ => ∀ engine, next.Grows may engine

def Tame (may : Invocation Act → Prop) (work : Proc (Engine S Act) α) : Prop :=
  ∀ engine, work.Grows may engine

theorem Grows.advance {work : Proc (Engine S Act) α} {engine : Engine S Act}
    (grows : work.Grows may engine) :
    engine.Extends may (work.advance engine).2 ∧
      ∀ duration rest, (work.advance engine).1 = .waiting duration rest → rest.Tame may := by
  induction work generalizing engine with
  | done value =>
      refine ⟨engine.extends_refl may, ?_⟩
      intro duration rest halted
      cases halted
  | fail fault =>
      refine ⟨engine.extends_refl may, ?_⟩
      intro duration rest halted
      cases halted
  | read next ih => exact ih engine grows
  | write state next ih =>
      obtain ⟨extended, onward⟩ := grows
      obtain ⟨further, waits⟩ := ih onward
      exact ⟨extended.trans further, waits⟩
  | wait duration next =>
      refine ⟨engine.extends_refl may, ?_⟩
      intro _ rest halted
      cases halted
      exact grows

theorem Grows.bind {work : Proc (Engine S Act) α} {next : α → Proc (Engine S Act) β}
    {engine : Engine S Act} (grows : work.Grows may engine)
    (onward : ∀ value, (next value).Tame may) : (work.bind next).Grows may engine := by
  induction work generalizing engine with
  | done value => exact onward value engine
  | fail fault => trivial
  | read rest ih => exact ih engine grows
  | write state rest ih => exact ⟨grows.1, ih grows.2⟩
  | wait duration rest ih => exact fun other => ih (grows other)

theorem Grows.attempt {work : Proc (Engine S Act) α} {engine : Engine S Act}
    (grows : work.Grows may engine) : work.attempt.Grows may engine := by
  induction work generalizing engine with
  | done value => trivial
  | fail fault => trivial
  | read rest ih => exact ih engine grows
  | write state rest ih => exact ⟨grows.1, ih grows.2⟩
  | wait duration rest ih => exact fun other => ih (grows other)

theorem tame_done (value : α) : (done value : Proc (Engine S Act) α).Tame may :=
  fun _ => trivial

theorem tame_bind {work : Proc (Engine S Act) α} {next : α → Proc (Engine S Act) β}
    (tame : work.Tame may) (onward : ∀ value, (next value).Tame may) :
    (work.bind next).Tame may :=
  fun engine => (tame engine).bind onward

theorem tame_attempt {work : Proc (Engine S Act) α} (tame : work.Tame may) :
    work.attempt.Tame may :=
  fun engine => (tame engine).attempt

theorem tame_attemptError {work : Proc (Engine S Act) α} (tame : work.Tame may) :
    work.attemptError.Tame may := by
  refine tame_bind (tame_attempt tame) ?_
  rintro (⟨cause | payload⟩ | value) engine <;> trivial

/-- Work on the state of the hooks leaves the trace alone. -/
theorem tame_on (work : Proc S α) : (work.on (Engine.innerPart : Part (Engine S Act) S)).Tame may := by
  induction work with
  | done value => exact tame_done value
  | fail fault => exact fun _ => trivial
  | read next ih => exact fun engine => ih engine.inner engine
  | write state next ih =>
      exact fun engine => ⟨⟨rfl, (engine.extends_refl may).traced⟩, ih _⟩
  | wait duration next ih => exact fun _ => ih

end Proc

namespace Workflow

variable {may : Invocation Act → Prop}

theorem tame_invoke {invocation : Invocation Act} (allowed : may invocation) (work : Proc S α) :
    (invoke invocation work).Tame may := by
  refine Proc.tame_bind ?_ fun _ => Proc.tame_on work
  refine fun engine => ⟨⟨rfl, [invocation], rfl, ?_⟩, trivial⟩
  intro other member
  rw [List.mem_singleton.mp member]
  exact allowed

theorem tame_foldStage {invocation : Nat → β → Invocation Act}
    (allowed : ∀ position value, may (invocation position value)) (works : List (β → Proc S β))
    (position : Nat) (value : β) : (foldStage invocation position works value).Tame may := by
  induction works generalizing position value with
  | nil => exact Proc.tame_done value
  | cons work rest ih =>
      exact Proc.tame_bind (tame_invoke (allowed position value) _) fun next =>
        ih (position + 1) next

theorem tame_firstOf {invocation : Nat → Invocation Act}
    (allowed : ∀ position, may (invocation position)) (works : List (Proc S (Option β)))
    (position : Nat) : (firstOf invocation position works).Tame may := by
  induction works generalizing position with
  | nil => exact Proc.tame_done none
  | cons work rest ih =>
      refine Proc.tame_bind (tame_invoke (allowed position) _) ?_
      rintro (_ | value)
      · exact ih (position + 1)
      · exact Proc.tame_done (some value)

/-! ### What calls do once the initial hooks have succeeded -/

abbrev Beyond (invocation : Invocation Act) : Prop := ¬ invocation.IsInit

theorem tame_send (workflow : Workflow κ S Act) (request : Request) :
    (workflow.send request).Tame Beyond := by
  refine Proc.tame_bind (tame_invoke (by rintro ⟨_, ⟨⟩⟩) _) ?_
  rintro (_ | response) engine <;> trivial

theorem tame_exchange (workflow : Workflow κ S Act) (request : Request) :
    (workflow.exchange request).Tame Beyond := by
  refine Proc.tame_bind (workflow.tame_send request) fun response => ?_
  refine Proc.tame_bind (tame_foldStage (by rintro _ _ ⟨_, ⟨⟩⟩) _ _ _) fun _ => ?_
  refine Proc.tame_bind ?_ fun node => ?_
  · refine Proc.tame_bind (tame_firstOf (by rintro _ ⟨_, ⟨⟩⟩) _ _) ?_
    rintro (_ | node) engine <;> trivial
  refine Proc.tame_bind (tame_foldStage (by rintro _ _ ⟨_, ⟨⟩⟩) _ _ _) fun node => ?_
  cases node with
  | success node =>
      exact Proc.tame_bind (tame_foldStage (by rintro _ _ ⟨_, ⟨⟩⟩) _ _ _) fun _ =>
        Proc.tame_done _
  | continuation node => exact Proc.tame_done _
  | error node => exact Proc.tame_done _
  | failure cause => exact Proc.tame_done _

theorem tame_signOffHooks (works : List (Request → Proc S Request)) (position : Nat)
    (farewell : Farewell) :
    (signOffHooks position works farewell : Proc (Engine S Act) Farewell).Tame Beyond := by
  induction works generalizing position farewell with
  | nil => exact Proc.tame_done farewell
  | cons work rest ih =>
      refine Proc.tame_bind
        (Proc.tame_attemptError (tame_invoke (by rintro ⟨_, ⟨⟩⟩) _)) ?_
      rintro (cause | request)
      · exact ih (position + 1) _
      · exact ih (position + 1) _

theorem tame_signOffSend (workflow : Workflow κ S Act) (farewell : Farewell) :
    (workflow.signOffSend farewell).Tame Beyond := by
  unfold signOffSend
  split
  · refine Proc.tame_bind (Proc.tame_attemptError (workflow.tame_send _)) ?_
    rintro (cause | response) <;> exact Proc.tame_done _
  · exact Proc.tame_done farewell

theorem tame_concluded {work : Proc (Engine S Act) α} (tame : work.Tame Beyond)
    (conclude : Except Fault α → β) :
    (((Proc.ofOutcome (.ok ())).bind fun _ => work).attempt.bind fun outcome =>
      .done (conclude outcome)).Tame Beyond :=
  Proc.tame_bind (Proc.tame_attempt (Proc.tame_bind (Proc.tame_done ()) fun _ => tame))
    fun _ => Proc.tame_done _

theorem tame_begin (workflow : Workflow κ S Act) (opening : Opening Act) :
    ((workflow.begin opening).body (.ok ())).Tame Beyond := by
  cases opening with
  | start request =>
      refine tame_concluded ?_ workflow.conclude
      exact Proc.tame_bind (tame_foldStage (by rintro _ _ ⟨_, ⟨⟩⟩) _ _ _)
        fun request => workflow.tame_exchange request
  | next step =>
      refine tame_concluded ?_ workflow.conclude
      refine Proc.tame_bind (tame_foldStage (by rintro _ _ ⟨_, ⟨⟩⟩) _ _ _) fun request => ?_
      exact Proc.tame_bind (tame_foldStage (by rintro _ _ ⟨_, ⟨⟩⟩) _ _ _)
        fun request => workflow.tame_exchange request

theorem tame_signOff (workflow : Workflow κ S Act) :
    (workflow.signOff.body (.ok ())).Tame Beyond := by
  refine tame_concluded ?_ concludeSignOff
  exact Proc.tame_bind (tame_signOffHooks _ _ _) fun farewell => workflow.tame_signOffSend farewell

/-- A call behind initial hooks that have succeeded invokes no initial hook. -/
theorem tame_body (workflow : Workflow κ S Act) (visit : Visit Act) :
    ((workflow.call visit).body (.ok ())).Tame Beyond := by
  cases visit with
  | turn opening => exact Proc.tame_bind (workflow.tame_begin opening) fun _ => Proc.tame_done _
  | signOff => exact Proc.tame_bind workflow.tame_signOff fun _ => Proc.tame_done _

theorem advance_body_error (workflow : Workflow κ S Act) (visit : Visit Act) (fault : Fault)
    (engine : Engine S Act) :
    ((workflow.call visit).body (.error fault)).advance engine =
      (.done (visit.refusal fault), engine) := by
  rcases visit with (request | step) | _ <;> rfl

end Workflow

end GuidedLogin
