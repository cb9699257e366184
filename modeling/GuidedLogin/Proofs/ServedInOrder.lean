/-
Transports with prepared answers, over any deeds at one desk. The answers taken, in the
order taken, and then those that still wait are those prepared; a request is recorded unless
a limit of time cuts its send off, and a responder is asked only where no answer waits
(`Orderly`). What a call to a workflow sends there is such a deed (`Transmits`).
-/
import GuidedLogin.Proofs.FailStop
import GuidedLogin.Proofs.Undisturbed
import GuidedLogin.Transport.Prepared

namespace GuidedLogin

/-! ### Steps that take time -/

namespace Proc

variable {σ α : Type} {delay limit : Nat} {change : σ → Except Fault α × σ}

def stepAfter (delay : Nat) (change : σ → Except Fault α × σ) : Proc σ α :=
  (sleep delay).bind fun _ => (step change).bind ofOutcome

theorem run_ofOutcome (outcome : Except Fault α) (state : σ) :
    (ofOutcome outcome).run state = (outcome, state) := by
  cases outcome <;> rfl

theorem run_within_ofOutcome (outcome : Except Fault α) (state : σ) :
    (within limit (ofOutcome outcome)).run state = (outcome.map some, state) := by
  cases outcome <;> rfl

theorem run_stepAfter (state : σ) : (stepAfter delay change).run state = change state := by
  unfold stepAfter sleep
  by_cases instant : delay = 0
  · rw [if_pos instant]
    exact run_ofOutcome (change state).1 (change state).2
  · rw [if_neg instant]
    exact run_ofOutcome (change state).1 (change state).2

theorem run_within_stepAfter_of_le (soon : delay ≤ limit) (state : σ) :
    (within limit (stepAfter delay change)).run state =
      ((change state).1.map some, (change state).2) := by
  unfold stepAfter sleep
  by_cases instant : delay = 0
  · rw [if_pos instant]
    exact run_within_ofOutcome (change state).1 (change state).2
  · rw [if_neg instant, bind, within, if_pos soon]
    exact run_within_ofOutcome (change state).1 (change state).2

theorem run_within_stepAfter_of_lt (late : limit < delay) (state : σ) :
    (within limit (stepAfter delay change)).run state = (.ok none, state) := by
  unfold stepAfter sleep
  rw [if_neg (by omega), bind, within, if_neg (by omega)]
  split <;> rfl

end Proc

namespace Desk

variable {World : Type}

/-- A responder that may do more than to answer: it is told the world around it, leaves one,
and may panic. -/
abbrev Responder (World : Type) : Type := Request → World → Except Fault Response × World

def plain (respond : Request → Except Error Response) : Responder World :=
  fun request world => ((respond request).mapError .error, world)

def serveIn (responder : Option (Responder World)) (request : Request) (room : Desk × World) :
    Except Fault Response × (Desk × World) :=
  let requests := room.1.requests ++ [request]
  match room.1.queue with
  | answer :: queue => ((answer.give request).mapError .error, (⟨queue, requests⟩, room.2))
  | [] =>
      match responder with
      | some respond =>
          let (outcome, left) := respond request room.2
          (outcome, (⟨[], requests⟩, left))
      | none => (.error (.error (unanswered request)), (⟨[], requests⟩, room.2))

/-- Sends a request like `send`, with a responder that may do more than to answer. -/
def sendIn (delay : Nat) (responder : Option (Responder World)) (request : Request) :
    Proc (Desk × World) Response :=
  .stepAfter delay (serveIn responder request)

def under {σ : Type} (limit : Option Elapsed) (work : Proc σ Response) :
    Proc σ (Option Response) :=
  match limit with
  | some bound => Proc.within bound.milliseconds work
  | none => work.bind fun response => .done (some response)

inductive Deed where
  | enqueue (reply : Reply)
  | enqueueJson (status : Nat) (value : Json)
  | enqueueError (cause : Error)
  | send (limit : Option Elapsed) (request : Request)

inductive Finding where
  | queued
  | cutOff
  | answered (taken : Option Answer) (outcome : Except Fault Response)

def Finding.ofSent (taken : Option Answer) : Except Fault (Option Response) → Finding
  | .ok none => .cutOff
  | .ok (some response) => .answered taken (.ok response)
  | .error fault => .answered taken (.error fault)

namespace Deed

def prepared? : Deed → Option Answer
  | .enqueue reply => some (.reply reply)
  | .enqueueJson status value => some (.reply (.ofJson status value))
  | .enqueueError cause => some (.error cause)
  | .send _ _ => none

def take (delay : Nat) (responder : Option (Responder World)) (room : Desk × World) :
    Deed → Finding × (Desk × World)
  | .enqueue reply => (.queued, (room.1.enqueue (.reply reply), room.2))
  | .enqueueJson status value =>
      (.queued, (room.1.enqueue (.reply (.ofJson status value)), room.2))
  | .enqueueError cause => (.queued, (room.1.enqueue (.error cause), room.2))
  | .send limit request =>
      let (outcome, left) := (under limit (sendIn delay responder request)).run room
      (.ofSent room.1.queue.head? outcome, left)

def InTime (delay : Nat) (limit : Option Elapsed) : Prop :=
  ∀ bound, limit = some bound → delay ≤ bound.milliseconds

end Deed

variable {delay : Nat} {responder : Option (Responder World)} {request : Request}
variable {room : Desk × World} {deed : Deed} {limit : Option Elapsed}

/-! ### Single deeds -/

private theorem take_of_prepared {answer : Answer} (told : deed.prepared? = some answer) :
    deed.take delay responder room = (.queued, (room.1.enqueue answer, room.2)) := by
  cases deed <;> cases told <;> rfl

theorem run_under_of_late {bound : Elapsed} (late : bound.milliseconds < delay) :
    (under (some bound) (sendIn delay responder request)).run room = (.ok none, room) :=
  Proc.run_within_stepAfter_of_lt late room

theorem run_under_of_inTime (inTime : Deed.InTime delay limit) :
    (under limit (sendIn delay responder request)).run room =
      ((serveIn responder request room).1.map some, (serveIn responder request room).2) := by
  cases limit with
  | none => rw [under, Proc.run_bind_done, sendIn, Proc.run_stepAfter]
  | some bound => exact Proc.run_within_stepAfter_of_le (inTime bound rfl) room

theorem take_of_late {bound : Elapsed} (late : bound.milliseconds < delay) :
    (Deed.send (some bound) request).take delay responder room = (.cutOff, room) := by
  rw [Deed.take, run_under_of_late late]
  rfl

theorem take_of_inTime (inTime : Deed.InTime delay limit) :
    (Deed.send limit request).take delay responder room =
      (.answered room.1.queue.head? (serveIn responder request room).1,
        (serveIn responder request room).2) := by
  rw [Deed.take, run_under_of_inTime inTime]
  cases (serveIn responder request room).1 <;> rfl

/-- What a deed can be, and what it does then. -/
theorem take_cases (delay : Nat) (responder : Option (Responder World)) (room : Desk × World)
    (deed : Deed) :
    (∃ answer, deed.prepared? = some answer ∧
      deed.take delay responder room = (.queued, (room.1.enqueue answer, room.2))) ∨
    (∃ bound request, deed = .send (some bound) request ∧ bound.milliseconds < delay ∧
      deed.take delay responder room = (.cutOff, room)) ∨
    ∃ limit request, deed = .send limit request ∧ Deed.InTime delay limit ∧
      deed.take delay responder room =
        (.answered room.1.queue.head? (serveIn responder request room).1,
          (serveIn responder request room).2) := by
  cases known : deed.prepared? with
  | some answer => exact Or.inl ⟨answer, rfl, take_of_prepared known⟩
  | none =>
      cases deed with
      | send limit request =>
          by_cases late : ∃ bound, limit = some bound ∧ bound.milliseconds < delay
          · obtain ⟨bound, rfl, late⟩ := late
            exact Or.inr (Or.inl ⟨bound, request, rfl, late, take_of_late late⟩)
          · have inTime : Deed.InTime delay limit := fun bound given =>
              Nat.le_of_not_lt fun less => late ⟨bound, given, less⟩
            exact Or.inr (Or.inr ⟨limit, request, rfl, inTime, take_of_inTime inTime⟩)
      | _ => cases known

theorem requests_serveIn :
    (serveIn responder request room).2.1.requests = room.1.requests ++ [request] := by
  unfold serveIn
  cases room.1.queue with
  | cons answer queue => rfl
  | nil => cases responder <;> rfl

theorem queue_serveIn : (serveIn responder request room).2.1.queue = room.1.queue.tail := by
  unfold serveIn
  cases room.1.queue with
  | cons answer queue => rfl
  | nil => cases responder <;> rfl

/-! ### Responders that only answer -/

variable (respond : Option (Request → Except Error Response)) (desk : Desk) (world : World)

private theorem serveIn_plain :
    serveIn (respond.map plain) request (desk, world) =
      ((serve respond request desk).1.mapError .error, ((serve respond request desk).2, world)) := by
  unfold serveIn serve
  cases desk.queue with
  | cons answer queue => rfl
  | nil => cases respond <;> rfl

private theorem send_eq_stepAfter :
    send delay respond request = .stepAfter delay fun desk =>
      ((serve respond request desk).1.mapError .error, (serve respond request desk).2) := by
  have same : (Proc.ofExcept : Except Error Response → Proc Desk Response) =
      fun outcome => .ofOutcome (outcome.mapError .error) := by
    funext outcome
    cases outcome <;> rfl
  unfold send
  rw [same]
  rfl

/-- With a responder that only answers, what is sent is sent by `send`. -/
theorem run_under_sendIn_plain (limit : Option Elapsed) :
    (under limit (sendIn delay (respond.map plain) request)).run (desk, world) =
      (((under limit (send delay respond request)).run desk).1,
        (((under limit (send delay respond request)).run desk).2, world)) := by
  rw [sendIn, send_eq_stepAfter]
  cases limit with
  | none =>
      rw [under, under, Proc.run_bind_done, Proc.run_bind_done, Proc.run_stepAfter,
        Proc.run_stepAfter, serveIn_plain]
  | some bound =>
      rw [under, under]
      by_cases late : bound.milliseconds < delay
      · rw [Proc.run_within_stepAfter_of_lt late, Proc.run_within_stepAfter_of_lt late]
      · have soon := Nat.le_of_not_lt late
        rw [Proc.run_within_stepAfter_of_le soon, Proc.run_within_stepAfter_of_le soon,
          serveIn_plain]

/-! ### Deeds one after another -/

structure Event (World : Type) where
  world : World
  deed : Deed
  finding : Finding
  left : World

namespace Event

def prepared? (event : Event World) : Option Answer := event.deed.prepared?

def taken? (event : Event World) : Option Answer :=
  match event.finding with
  | .answered taken _ => taken
  | _ => none

def received? (event : Event World) : Option Request :=
  match event.deed, event.finding with
  | .send _ request, .answered _ _ => some request
  | _, _ => none

end Event

def waiting? (events : List (Event World)) : Option Answer :=
  (events.filterMap Event.prepared?)[(events.filterMap Event.taken?).length]?

/-- What a deed finds and leaves behind earlier ones. The world is left alone unless the
responder is asked. -/
inductive Attended (delay : Nat) (responder : Option (Responder World))
    (earlier : List (Event World)) : Event World → Prop where
  | queued {world : World} {deed : Deed} {answer : Answer}
      (told : deed.prepared? = some answer) :
      Attended delay responder earlier ⟨world, deed, .queued, world⟩
  | cutOff {world : World} {bound : Elapsed} {request : Request}
      (late : bound.milliseconds < delay) :
      Attended delay responder earlier ⟨world, .send (some bound) request, .cutOff, world⟩
  | replied {world : World} {limit : Option Elapsed} {request : Request} {reply : Reply}
      (inTime : Deed.InTime delay limit) (oldest : waiting? earlier = some (.reply reply)) :
      Attended delay responder earlier
        ⟨world, .send limit request, .answered (some (.reply reply))
          (.ok ⟨request, reply.status, reply.headers, reply.body⟩), world⟩
  | refused {world : World} {limit : Option Elapsed} {request : Request} {cause : Error}
      (inTime : Deed.InTime delay limit) (oldest : waiting? earlier = some (.error cause)) :
      Attended delay responder earlier
        ⟨world, .send limit request, .answered (some (.error cause)) (.error (.error cause)), world⟩
  | asked {world left : World} {limit : Option Elapsed} {request : Request}
      {respond : Responder World} {outcome : Except Fault Response}
      (inTime : Deed.InTime delay limit) (empty : waiting? earlier = none)
      (present : responder = some respond) (answered : respond request world = (outcome, left)) :
      Attended delay responder earlier
        ⟨world, .send limit request, .answered none outcome, left⟩
  | unanswered {world : World} {limit : Option Elapsed} {request : Request}
      (inTime : Deed.InTime delay limit) (empty : waiting? earlier = none)
      (absent : responder = none) :
      Attended delay responder earlier
        ⟨world, .send limit request,
          .answered none (.error (.error (Desk.unanswered request))), world⟩

structure Session (World : Type) where
  events : List (Event World)
  desk : Desk

def Session.note (delay : Nat) (responder : Option (Responder World)) (session : Session World)
    (deed : World × Deed) : Session World :=
  let taken := deed.2.take delay responder (session.desk, deed.1)
  ⟨session.events ++ [⟨deed.1, deed.2, taken.1, taken.2.2⟩], taken.2.1⟩

/-- Deeds at a new desk, one after another. Whatever happens in between is told by the world
that each is done in, which may be any. -/
def attend (delay : Nat) (responder : Option (Responder World)) (deeds : List (World × Deed)) :
    Session World :=
  deeds.foldl (Session.note delay responder) ⟨[], .ofAnswers []⟩

structure Orderly (delay : Nat) (responder : Option (Responder World))
    (deeds : List (World × Deed)) (session : Session World) : Prop where
  done : session.events.map (fun event => (event.world, event.deed)) = deeds
  each : ∀ earlier event later, session.events = earlier ++ event :: later →
    Attended delay responder earlier event
  requests : session.desk.requests = session.events.filterMap Event.received?
  conserved : session.events.filterMap Event.taken? ++ session.desk.queue =
    session.events.filterMap Event.prepared?

variable {deeds : List (World × Deed)} {session : Session World}

theorem Orderly.waiting?_eq (orderly : Orderly delay responder deeds session) :
    waiting? session.events = session.desk.queue.head? := by
  unfold waiting?
  rw [← orderly.conserved, List.getElem?_append_right (Nat.le_refl _), Nat.sub_self,
    List.head?_eq_getElem?]

omit world in
private theorem Orderly.attended (orderly : Orderly delay responder deeds session) (world : World)
    (deed : Deed) :
    Attended delay responder session.events
      ⟨world, deed, (deed.take delay responder (session.desk, world)).1,
        (deed.take delay responder (session.desk, world)).2.2⟩ := by
  have oldest := orderly.waiting?_eq
  rcases take_cases delay responder (session.desk, world) deed with
    ⟨answer, told, did⟩ | ⟨bound, request, rfl, late, did⟩ | ⟨limit, request, rfl, inTime, did⟩
  · rw [did]
    exact .queued told
  · rw [did]
    exact .cutOff late
  · rw [did]
    unfold serveIn
    cases queue : session.desk.queue with
    | cons answer rest =>
        rw [queue] at oldest
        cases answer with
        | reply reply => exact .replied inTime oldest
        | error cause => exact .refused inTime oldest
    | nil =>
        rw [queue] at oldest
        cases responder with
        | some respond => exact .asked inTime oldest rfl rfl
        | none => exact .unanswered inTime oldest rfl

private theorem Orderly.note (orderly : Orderly delay responder deeds session)
    (deed : World × Deed) :
    Orderly delay responder (deeds ++ [deed]) (session.note delay responder deed) := by
  obtain ⟨world, deed⟩ := deed
  have attended := orderly.attended world deed
  unfold Session.note
  refine ⟨?_, ?_, ?_, ?_⟩
  · simp [orderly.done]
  · intro earlier event later same
    rcases append_singleton_eq same with ⟨_, here, last⟩ | ⟨between, _, within⟩
    · rw [← here, ← last]
      exact attended
    · exact orderly.each earlier event between within
  · rw [List.filterMap_append, ← orderly.requests]
    rcases take_cases delay responder (session.desk, world) deed with
      ⟨answer, told, did⟩ | ⟨bound, request, rfl, late, did⟩ | ⟨limit, request, rfl, inTime, did⟩
    · simp [did, enqueue, Event.received?]
    · simp [did, Event.received?]
    · simp [did, requests_serveIn, Event.received?]
  · simp only [List.filterMap_append]
    rw [← orderly.conserved, List.append_assoc, List.append_assoc, List.append_cancel_left_eq]
    rcases take_cases delay responder (session.desk, world) deed with
      ⟨answer, told, did⟩ | ⟨bound, request, rfl, late, did⟩ | ⟨limit, request, rfl, inTime, did⟩
    · simp [did, enqueue, Event.taken?, Event.prepared?, told]
    · simp [did, List.filterMap_cons, Event.taken?, Event.prepared?, Deed.prepared?]
    · cases queue : session.desk.queue <;>
        simp [did, queue_serveIn, List.filterMap_cons, Event.taken?, Event.prepared?,
          Deed.prepared?, queue]

private theorem orderly_attend (delay : Nat) (responder : Option (Responder World))
    (deeds : List (World × Deed)) : Orderly delay responder deeds (attend delay responder deeds) := by
  induction deeds using List.reverseRecOn with
  | nil => exact ⟨rfl, by simp [attend], rfl, rfl⟩
  | append_singleton deeds deed ih =>
      unfold attend
      rw [List.foldl_append]
      exact ih.note deed

end Desk

def Desk.alone {Ω : Type} (place : Part Ω Desk) : Part Ω (Desk × Unit) where
  get outside := (place.get outside, ())
  set room outside := place.set room.1 outside

private theorem Desk.alone_lawful {Ω : Type} {place : Part Ω Desk} (lawful : place.Lawful) :
    (alone place).Lawful where
  get_set := fun room outside => Prod.ext (lawful.get_set room.1 outside) rfl
  set_get := lawful.set_get
  set_set := fun second first outside => lawful.set_set second.1 first.1 outside

/-! ### Calls to workflows -/

namespace Blueprint

variable {κ : Type} [DecidableEq κ] {Config : κ → Type} {Act Ω World : Type}

structure AtDesk (plan : Blueprint Config Act Ω) (place : Part Ω (Desk × World)) (delay : Nat)
    (responder : Option (Desk.Responder World)) : Prop where
  lawful : place.Lawful
  transport : ∀ request limit outside,
    (Desk.under (some limit) (plan.transport request)).run outside =
      let sent := (Desk.under (some limit) (Desk.sendIn delay responder request)).run
        (place.get outside)
      (sent.1, place.set sent.2 outside)

/-- What the invocation of a transport at a desk does: it is a send under the limit of the
workflow and changes nothing else. A turn ends with one that is cut off. -/
structure Transmits (plan : Blueprint Config Act Ω) (place : Part Ω (Desk × World)) (delay : Nat)
    (responder : Option (Desk.Responder World)) (passage : Passage (Scope Config Act Ω) Act)
    (request : Request) (entry : LogEntry (Scope Config Act Ω) Act)
    (later : List (LogEntry (Scope Config Act Ω) Act)) : Prop where
  answered : delay ≤ plan.settings.timeout.milliseconds → ∃ taken outcome room,
    (Desk.Deed.send (some plan.settings.timeout) request).take delay responder
        (place.get entry.before.common.outside) = (.answered taken outcome, room) ∧
      entry.outcome = outcome.map .response ∧
      entry.after = Scope.outsidePart.set (place.set room entry.before.common.outside) entry.before
  cutOff : plan.settings.timeout.milliseconds < delay →
    (Desk.Deed.send (some plan.settings.timeout) request).take delay responder
        (place.get entry.before.common.outside) =
        (.cutOff, place.get entry.before.common.outside) ∧
      entry.outcome = .error (.error (.timeout plan.settings.timeout)) ∧
      entry.after = entry.before ∧
      ∀ opening, passage.visit = .turn opening → later = [] ∧
        passage.upshot = .node (.failure (.timeout plan.settings.timeout))

variable {plan : Blueprint Config Act Ω} {place : Part Ω (Desk × World)} {delay : Nat}
variable {responder : Option (Desk.Responder World)}

omit [DecidableEq κ] in
theorem atDesk_of_sendIn (lawful : place.Lawful)
    (same : plan.transport = fun request => (Desk.sendIn delay responder request).on place) :
    plan.AtDesk place delay responder where
  lawful := lawful
  transport := by
    intro request limit outside
    rw [same, Desk.under, Proc.within_on, Proc.run_on place lawful]
    rfl

omit [DecidableEq κ] in
/-- The transport may be `send` itself. -/
theorem atDesk_of_send {desk : Part Ω Desk} (lawful : desk.Lawful)
    {respond : Option (Request → Except Error Response)}
    (same : plan.transport = fun request => (Desk.send delay respond request).on desk) :
    plan.AtDesk (Desk.alone desk) delay (respond.map Desk.plain) where
  lawful := Desk.alone_lawful lawful
  transport := by
    intro request limit outside
    have plain : (Desk.under (some limit)
        (Desk.sendIn delay (respond.map Desk.plain) request)).run (desk.get outside, ()) = _ :=
      Desk.run_under_sendIn_plain respond (desk.get outside) () (some limit)
    change _ = (((Desk.under (some limit) _).run (desk.get outside, ())).1, desk.set
      ((Desk.under (some limit) _).run (desk.get outside, ())).2.1 outside)
    rw [plain, same, Desk.under, Proc.within_on, Proc.run_on desk lawful]
    rfl

private theorem AtDesk.run_perform (atDesk : plan.AtDesk place delay responder) (visit : Visit Act)
    (request : Request) (scope : Scope Config Act Ω) :
    (plan.workflow.perform visit (.transport request)).run scope =
      let sent := (Desk.under (some plan.settings.timeout)
        (Desk.sendIn delay responder request)).run (place.get scope.common.outside)
      (Workflow.received plan.settings.timeout sent.1,
        Scope.outsidePart.set (place.set sent.2 scope.common.outside) scope) := by
  have told := atDesk.transport request plan.settings.timeout scope.common.outside
  have ran : (Proc.within plan.settings.timeout.milliseconds
        ((plan.transport request).on Scope.outsidePart)).run scope =
      (((Desk.under (some plan.settings.timeout) (plan.transport request)).run
          scope.common.outside).1,
        Scope.outsidePart.set ((Desk.under (some plan.settings.timeout)
          (plan.transport request)).run scope.common.outside).2 scope) := by
    rw [Proc.within_on, Proc.run_on _ Scope.outsidePart_lawful]
    rfl
  rw [told] at ran
  rw [Workflow.run_perform_transport]
  exact congrArg (fun result => (Workflow.received plan.settings.timeout result.1, result.2)) ran

private theorem AtDesk.transmits (atDesk : plan.AtDesk place delay responder)
    {passage : Passage (Scope Config Act Ω) Act} (happens : passage.Happens plan.workflow)
    {earlier later : List (LogEntry (Scope Config Act Ω) Act)}
    {entry : LogEntry (Scope Config Act Ω) Act} {request : Request}
    (within : passage.entries = earlier ++ entry :: later)
    (sent : entry.invocation = .transport request) :
    plan.Transmits place delay responder passage request entry later := by
  obtain ⟨_, _, _, ran⟩ := happens.recorded.split within
  rw [sent, atDesk.run_perform] at ran
  obtain ⟨outcome, after⟩ := Prod.ext_iff.mp ran
  dsimp only at outcome after
  constructor
  · intro soon
    have inTime : Desk.Deed.InTime delay (some plan.settings.timeout) := by
      intro bound same
      cases same
      exact soon
    rw [Desk.run_under_of_inTime inTime] at outcome after
    refine ⟨_, _, _, Desk.take_of_inTime inTime, ?_, after.symm⟩
    rw [← outcome]
    cases (Desk.serveIn responder request (place.get entry.before.common.outside)).1 <;> rfl
  · intro late
    rw [Desk.run_under_of_late late] at outcome after
    rw [atDesk.lawful.set_get] at after
    have unchanged := Scope.outsidePart_lawful.set_get entry.before
    refine ⟨Desk.take_of_late late, outcome.symm, after.symm.trans unchanged, ?_⟩
    intro opening turn
    obtain ⟨node, came, failStop⟩ := happens.failStop turn
    have last : later = [] := by
      cases later with
      | nil => rfl
      | cons next rest =>
          have succeeded : entry.Succeeded := failStop.cut entry (by simp [within])
          obtain ⟨yield, yielded⟩ := succeeded
          rw [← outcome] at yielded
          cases yielded
    refine ⟨last, ?_⟩
    rw [came, failStop.failed entry _ (by simp [within, last]) outcome.symm]
    rfl

/-- Whatever is done at a desk, nothing is lost and nothing gets out of order. What calls to
a workflow send there is done there like any other deed, and a responder that only answers
is one of those that may do more. -/
theorem AtDesk.servedInOrder (atDesk : plan.AtDesk place delay responder) :
    (∀ deeds, Desk.Orderly delay responder deeds (Desk.attend delay responder deeds)) ∧
      (∀ passage, passage.Happens plan.workflow → ∀ earlier entry later request,
        passage.entries = earlier ++ entry :: later → entry.invocation = .transport request →
          plan.Transmits place delay responder passage request entry later) ∧
      ∀ respond limit request desk (world : World),
        (Desk.under limit (Desk.sendIn delay (respond.map Desk.plain) request)).run (desk, world) =
          let sent := (Desk.under limit (Desk.send delay respond request)).run desk
          (sent.1, (sent.2, world)) :=
  ⟨Desk.orderly_attend delay responder,
    fun _ happens _ _ _ _ within sent => atDesk.transmits happens within sent,
    fun respond limit _ desk world => Desk.run_under_sendIn_plain respond desk world limit⟩

/-- A login that waits for 20 ms, at a desk that takes 500. One answer is prepared there. -/
def hastyLogin : Blueprint (fun _ : Empty => Unit) Unit Desk where
  modules := fun key => nomatch key
  settings := ⟨"login", [], ⟨20000000⟩⟩
  id := 0
  transport := fun request => (Desk.send 500 none request).on .whole
  adapter? := fun _ => none
  outside := .ofAnswers [.error (.custom "closed")]

def hastyStart : Passage (Scope (fun _ : Empty => Unit) Unit Desk) Unit :=
  ⟨.turn (.start .empty), hastyLogin.engine,
    (hastyLogin.workflow.logOf (.turn (.start .empty)) hastyLogin.engine).entries,
    .node (.failure (.timeout ⟨20000000⟩)),
    ((hastyLogin.workflow.call (.turn (.start .empty))).work.run hastyLogin.engine).2⟩

private theorem hastyLogin_atDesk : hastyLogin.AtDesk (Desk.alone .whole) 500 none := by
  have lawful : (Part.whole : Part Desk Desk).Lawful :=
    ⟨fun _ _ => rfl, fun _ => rfl, fun _ _ _ => rfl⟩
  have same : hastyLogin.transport = fun request => (Desk.send 500 none request).on .whole := rfl
  exact atDesk_of_send lawful same

private theorem hastyStart_happens : hastyStart.Happens hastyLogin.workflow :=
  Workflow.happens_of_run (Prod.ext rfl rfl)

/-- A send that is cut off, and two that are not: the first of these fails as prepared, and
nothing is left for the second. -/
def hastyDeeds : List (Unit × Desk.Deed) :=
  [((), .enqueueError (.custom "closed")), ((), .send (some ⟨20000000⟩) .empty),
    ((), .send none .empty), ((), .send none .empty)]

theorem hasty_servedInOrder :
    Desk.Orderly 500 none hastyDeeds (Desk.attend 500 none hastyDeeds) ∧
      (Desk.attend 500 none hastyDeeds).events.map Desk.Event.finding =
        [.queued, .cutOff,
          .answered (some (.error (.custom "closed"))) (.error (.error (.custom "closed"))),
          .answered none (.error (.error (.unanswered "GET" "<no url>")))] ∧
      (Desk.attend 500 none hastyDeeds).desk.requests = [.empty, .empty] ∧
      ∃ entry, hastyStart.entries = [entry] ∧ entry.after = entry.before ∧
        hastyLogin.Transmits (Desk.alone .whole) 500 none hastyStart .empty entry [] := by
  obtain ⟨orderly, transmits, _⟩ := hastyLogin_atDesk.servedInOrder
  obtain ⟨entry, only, unchanged, sent⟩ : ∃ entry, hastyStart.entries = [entry] ∧
      entry.after = entry.before ∧ entry.invocation = .transport .empty := ⟨_, rfl, rfl, rfl⟩
  refine ⟨orderly hastyDeeds, rfl, rfl, entry, only, unchanged, ?_⟩
  exact transmits hastyStart hastyStart_happens [] entry [] .empty only sent

end Blueprint

end GuidedLogin
