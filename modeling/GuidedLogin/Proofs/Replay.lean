/-
Cookies over whole histories. What is told of cookies in the calls of a history leaves the
jar as it stands (`JarAlone.standing_of_history`), and a request that a turn sends has one
header for every cookie in it (`JarAlone.cookies_of_transport`).
-/
import GuidedLogin.Proofs.FailStop
import GuidedLogin.Proofs.History
import GuidedLogin.Proofs.JarAlone
import GuidedLogin.Proofs.Retry
import GuidedLogin.Proofs.SignOffs

namespace GuidedLogin

variable {ι : Type} {Own : ι → Type} {Act Ω : Type}

def Slot.Builds : Slot → Prop
  | .adapter _ => True
  | .hook .start _ => True
  | .hook .next _ => True
  | _ => False

namespace Visit

variable {visit : Visit Act} {outlook : Outlook Act} {slot : Slot} {invocation : Invocation Act}
variable {yield : Yield Act} {headers : List String}

private theorem request_take (outlook : Outlook Act) (yield : Yield Act) :
    (outlook.take yield).request = yield.over outlook.request := by
  cases yield with
  | produced made => cases made <;> rfl
  | _ => rfl

/-- Where a request is built, what is invoked adds to the one built so far. -/
theorem cookies_take (due : visit.due? outlook slot = some invocation) (builds : slot.Builds)
    (adds : invocation.Adds headers yield) :
    (outlook.take yield).request.cookies = outlook.request.cookies ++ headers := by
  rw [request_take]
  cases slot with
  | transport => cases builds
  | adapter position =>
      cases due
      exact adds
  | hook stage position =>
      cases stage <;> first
        | cases builds; done
        | cases due; exact adds
        | skip
      cases visit with
      | signOff => cases due
      | turn opening =>
          cases opening with
          | start request => cases due
          | next step =>
              cases due
              exact adds

theorem bare_of_due (due : visit.due? outlook slot = some invocation)
    (bare : ∀ node, outlook.node = some node → node.Bare) : invocation.Bare := by
  have placed := slot_of_due due
  cases invocation with
  | node position given =>
      cases placed
      obtain ⟨node, made, same⟩ := Option.map_eq_some_iff.mp due
      cases same
      exact bare _ made
  | _ => trivial

private theorem bare_take (yields : invocation.slot.Yields yield)
    (adds : invocation.Adds headers yield)
    (bare : ∀ node, outlook.node = some node → node.Bare) :
    ∀ node, (outlook.take yield).node = some node → node.Bare := by
  intro node made
  cases yield with
  | nothing => exact bare node made
  | request request => exact bare node made
  | response response => exact bare node made
  | produced found =>
      cases found with
      | none => exact bare node made
      | some other =>
          cases made
          cases invocation <;> first
            | cases yields; done
            | exact adds _ rfl
  | node other =>
      cases made
      cases invocation <;> first
        | cases yields; done
        | exact adds
  | success success =>
      cases made
      exact Node.bare_of_none rfl

end Visit

private theorem Recorded.request_of_initial {κ S : Type} {workflow : Workflow κ S Act}
    {visit : Visit Act}
    {first last : S} {entries : List (LogEntry S Act)}
    (recorded : Recorded workflow visit first entries last)
    (initial : ∀ entry ∈ entries, ∃ position, entry.slot = .hook .init position) :
    (visit.outlook entries).request = visit.base := by
  induction recorded with
  | begin => rfl
  | @note entries entry recorded survived due ran ih =>
      have before := ih fun earlier member => initial earlier (List.mem_append_left _ member)
      obtain ⟨position, placed⟩ :=
        initial entry (List.mem_append_right _ (List.mem_singleton_self entry))
      rw [Visit.outlook_append_singleton, request_note, before]
      unfold LogEntry.built?
      cases ended : entry.outcome with
      | error fault => rfl
      | ok yield =>
          rw [ended] at ran
          have yields : entry.slot.Yields yield := Workflow.perform_yields ran
          rw [placed] at yields
          cases yield <;> first
            | cases yields; done
            | rfl

private theorem Workflow.builds_of_mem {κ S : Type} {workflow : Workflow κ S Act}
    {opening : Opening Act}
    {slot : Slot} (member : slot ∈ workflow.openingAgenda opening) : slot.Builds := by
  cases opening with
  | start request =>
      obtain ⟨position, rfl, _⟩ := Workflow.mem_stageSlots.mp member
      trivial
  | next step =>
      rcases List.mem_append.mp member with inAdapters | inNext
      · obtain ⟨position, _, rfl⟩ := List.mem_map.mp inAdapters
        trivial
      · obtain ⟨position, rfl, _⟩ := Workflow.mem_stageSlots.mp inNext
        trivial

/-- A call that brings no cookie headers of its own: its request has none, or its step is
one that a call before came to. -/
def Visit.Offered {S : Type} (earlier : List (Passage S Act)) : Visit Act → Prop
  | .turn (.start request) => request.cookies = []
  | .turn (.next step) => step.template.cookies = [] ∨
      ∃ past ∈ earlier, ∃ node, past.upshot = .node node ∧ node.next? = some step
  | .signOff => True

variable [DecidableEq ι]

namespace Blueprint

/-- What happens between two calls leaves configurations and the jar alone, and brings no
step with cookie headers. -/
def JarAside (before after : Scope (CatalogKey.Config Own Act Ω) Act Ω) : Prop :=
  after.configs = before.configs ∧ ∀ jar, before.common.Plain jar → after.common.Plain jar

def toldIn (plan : Blueprint (CatalogKey.Config Own Act Ω) Act Ω) (depot : Depot Ω) (owner : Nat)
    (passage : Passage (Scope (CatalogKey.Config Own Act Ω) Act Ω) Act) : List CookieEvent :=
  passage.entries.flatMap (plan.told depot owner)

variable {plan : Blueprint (CatalogKey.Config Own Act Ω) Act Ω}
variable {own : (id : ι) → Module (Own id) Act Ω} {safe : (id : ι) → Own id → Prop}
variable {depot : Depot Ω} {owner : Nat} {config : CookieConfig Ω} {visit : Visit Act}
variable {jar : CookieJar}

/-! ### The hooks of the cookies that build requests -/

private theorem map_ownerOf? (plan : Blueprint (CatalogKey.Config Own Act Ω) Act Ω) {stage : Stage}
    {count : Nat} (all : count = (plan.workflow.hooks.stage stage).length) :
    (Workflow.stageSlots stage 0 count).map plan.ownerOf? =
      (plan.workflow.hooks.stage stage).map fun installed => some installed.owner := by
  apply List.ext_getElem
  · simp [Workflow.stageSlots, all]
  · intro index within inside
    rw [List.length_map] at inside
    simp [Workflow.stageSlots, ownerOf?, ownerAt?, List.getElem?_eq_getElem inside]

private theorem flatMap_if {α β : Type} (test : α → Prop) [DecidablePred test] (values : List β)
    (list : List α) :
    (list.flatMap fun member => if test member then values else []) =
      (list.filter test).flatMap fun _ => values := by
  induction list with
  | nil => rfl
  | cons head tail ih =>
      rw [List.flatMap_cons, ih, List.filter_cons]
      by_cases passes : test head <;> simp [passes]

/-- Where the cookies have one hook, a stage adds one header for every cookie. -/
theorem JarAlone.added_stage (alone : plan.JarAlone own safe depot owner config) (jar : CookieJar)
    {stage : Stage} {count : Nat} (all : count = (plan.workflow.hooks.stage stage).length)
    (one : ∀ view : Cookie.Sight Act Ω,
      ((Module.cookie.setup view).1.filter (·.stage = stage)).length = 1) :
    (Workflow.stageSlots stage 0 count).flatMap (plan.added owner jar) = jar.texts := by
  obtain ⟨priority, mode, registered⟩ := alone.registered
  obtain ⟨view, same⟩ := owned_stage registered stage
  rw [alone.catalog] at same
  have mine : ((plan.workflow.hooks.stage stage).filter (·.owner = owner)).length = 1 := by
    rw [same, List.length_map]
    exact one view
  obtain ⟨installed, single⟩ := List.length_eq_one_iff.mp mine
  have byOwner : (Workflow.stageSlots stage 0 count).flatMap (plan.added owner jar) =
      ((Workflow.stageSlots stage 0 count).map plan.ownerOf?).flatMap
        fun found => if found = some owner then jar.texts else [] := by
    rw [List.flatMap_map]
    rfl
  rw [byOwner, map_ownerOf? plan all, List.flatMap_map]
  simp only [Option.some.injEq]
  rw [flatMap_if, single, List.flatMap_cons, List.flatMap_nil, List.append_nil]

/-- A turn adds one header for every cookie where its request is built. -/
theorem JarAlone.added_openingAgenda (alone : plan.JarAlone own safe depot owner config)
    (opening : Opening Act) (jar : CookieJar) :
    (plan.workflow.openingAgenda opening).flatMap (plan.added owner jar) = jar.texts := by
  cases opening with
  | start request => exact alone.added_stage jar (List.length_map _).symm fun _ => rfl
  | next step =>
      unfold Workflow.openingAgenda
      rw [List.flatMap_append, alone.added_stage jar (List.length_map _).symm fun _ => rfl,
        List.flatMap_map]
      simp [added, ownerOf?]

/-! ### Records -/

variable {first last : Scope (CatalogKey.Config Own Act Ω) Act Ω}
variable {entries inits builds : List (LogEntry (Scope (CatalogKey.Config Own Act Ω) Act Ω) Act)}

/-- What a call tells of cookies leaves the jar as it stands behind the call. -/
theorem JarAlone.standing_of_recorded (alone : plan.JarAlone own safe depot owner config)
    (recorded : Recorded plan.workflow visit first entries last)
    (standing : plan.Standing safe depot owner jar first) :
    plan.Standing safe depot owner
        ((entries.flatMap (plan.told depot owner)).foldl CookieEvent.change jar) last ∧
      ∀ node, (visit.outlook entries).node = some node → node.Bare := by
  induction recorded with
  | begin =>
      refine ⟨standing, ?_⟩
      intro node made
      cases made
  | @note entries entry recorded survived due ran ih =>
      obtain ⟨before, bare⟩ := ih
      obtain ⟨after, adds⟩ := alone.standing_of_ran ran (Visit.bare_of_due due bare) before
      constructor
      · rw [List.flatMap_append, List.foldl_append, List.flatMap_singleton]
        exact after
      · rw [Visit.outlook_append_singleton]
        unfold Outlook.note
        cases ended : entry.outcome with
        | error fault => cases fault <;> exact bare
        | ok yield =>
            rw [ended] at ran
            exact Visit.bare_take (Workflow.perform_yields ran) (adds yield ended) bare

theorem told_of_builds {entry : LogEntry (Scope (CatalogKey.Config Own Act Ω) Act Ω) Act}
    (builds : entry.slot.Builds) : plan.told depot owner entry = [] := by
  unfold told
  split
  · obtain ⟨invocation, before, outcome, after⟩ := entry
    cases invocation <;> first
      | cases builds; done
      | rfl
  · rfl

/-- Behind the initial hooks the request is built with one jar. -/
theorem JarAlone.cookies_of_built (alone : plan.JarAlone own safe depot owner config)
    (recorded : Recorded plan.workflow visit first (inits ++ builds) last)
    (standing : plan.Standing safe depot owner jar first)
    (initial : ∀ entry ∈ inits, ∃ position, entry.slot = .hook .init position)
    (building : ∀ entry ∈ builds, entry.slot.Builds)
    (succeeded : ∀ entry ∈ builds, entry.Succeeded) :
    (visit.outlook (inits ++ builds)).request.cookies = visit.base.cookies ++
      (builds.map LogEntry.slot).flatMap (plan.added owner
        ((inits.flatMap (plan.told depot owner)).foldl CookieEvent.change jar)) := by
  induction builds using List.reverseRecOn generalizing last with
  | nil =>
      rw [List.append_nil] at recorded ⊢
      rw [recorded.request_of_initial initial]
      simp
  | append_singleton builds entry ih =>
      rw [← List.append_assoc] at recorded ⊢
      obtain ⟨earlier, _, due, ran⟩ := recorded.split rfl
      have inEarlier : ∀ past ∈ builds, past ∈ builds ++ [entry] :=
        fun past member => List.mem_append_left _ member
      have here : entry ∈ builds ++ [entry] := by simp
      obtain ⟨before, bare⟩ := alone.standing_of_recorded earlier standing
      have silent : builds.flatMap (plan.told depot owner) = [] :=
        List.flatMap_eq_nil_iff.mpr fun past member =>
          told_of_builds (building past (inEarlier past member))
      rw [List.flatMap_append, silent, List.append_nil] at before
      obtain ⟨_, adds⟩ := alone.standing_of_ran ran (Visit.bare_of_due due bare) before
      obtain ⟨yield, ended⟩ := succeeded entry here
      rw [Visit.outlook_append_singleton]
      unfold Outlook.note
      rw [ended]
      change ((visit.outlook (inits ++ builds)).take yield).request.cookies = _
      rw [Visit.cookies_take due (building entry here) (adds yield ended),
        ih earlier (fun past member => building past (inEarlier past member))
          (fun past member => succeeded past (inEarlier past member)),
        List.map_append, List.flatMap_append, List.append_assoc]
      simp

/-! ### Calls -/

variable {passage : Passage (Scope (CatalogKey.Config Own Act Ω) Act Ω) Act} {opening : Opening Act}
variable {passages earlier later : List (Passage (Scope (CatalogKey.Config Own Act Ω) Act Ω) Act)}
variable {engine : Engine (Scope (CatalogKey.Config Own Act Ω) Act Ω) Act}
variable {sofar rest : List (LogEntry (Scope (CatalogKey.Config Own Act Ω) Act Ω) Act)}
variable {entry : LogEntry (Scope (CatalogKey.Config Own Act Ω) Act Ω) Act} {request : Request}

/-- A request that a turn sends has the cookie headers that the turn begins with, and one
for every cookie in the jar as it stands by then. -/
theorem JarAlone.cookies_of_transport (alone : plan.JarAlone own safe depot owner config)
    (happens : passage.Happens plan.workflow) (turn : passage.visit = .turn opening)
    (within : passage.entries = sofar ++ entry :: rest)
    (sent : entry.invocation = .transport request)
    (standing : plan.Standing safe depot owner jar passage.before.inner) :
    request.cookies = passage.visit.base.cookies ++
      ((sofar.flatMap (plan.told depot owner)).foldl CookieEvent.change jar).texts := by
  obtain ⟨node, _, failStop⟩ := happens.failStop turn
  have placed : entry.slot = .transport := by
    rw [LogEntry.slot, sent]
    rfl
  obtain ⟨succeeded, inits, builds, rfl, initSlots, buildSlots⟩ :=
    failStop.split_transport within placed
  obtain ⟨recorded, _, due, _⟩ := happens.recorded.split within
  have initial : ∀ past ∈ inits, ∃ position, past.slot = .hook .init position := by
    intro past member
    have inAgenda : past.slot ∈ plan.workflow.initAgenda passage.before.initialized := by
      rw [← initSlots]
      exact List.mem_map_of_mem member
    unfold Workflow.initAgenda at inAgenda
    split at inAgenda
    · cases inAgenda
    · obtain ⟨position, same, _⟩ := Workflow.mem_stageSlots.mp inAgenda
      exact ⟨position, same⟩
  have building : ∀ past ∈ builds, past.slot.Builds := by
    intro past member
    apply Workflow.builds_of_mem
    rw [← buildSlots]
    exact List.mem_map_of_mem member
  have silent : builds.flatMap (plan.told depot owner) = [] :=
    List.flatMap_eq_nil_iff.mpr fun past member => told_of_builds (building past member)
  have built := alone.cookies_of_built recorded standing initial building
    fun past member => succeeded past (List.mem_append_right _ member)
  rw [buildSlots, alone.added_openingAgenda] at built
  rw [placed, turn, sent] at due
  cases due
  rw [List.flatMap_append, silent, List.append_nil, ← built, turn]

/-- No call comes to a step with cookie headers. -/
theorem JarAlone.bare_upshot (alone : plan.JarAlone own safe depot owner config)
    (happens : passage.Happens plan.workflow)
    (standing : plan.Standing safe depot owner jar passage.before.inner) {node : Node Act}
    (came : passage.upshot = .node node) : node.Bare := by
  cases visited : passage.visit with
  | signOff =>
      have ran := happens.ran
      rw [visited, Workflow.call, Call.run_map, Workflow.run_signOff] at ran
      have answered := Except.ok.inj (congrArg Prod.fst ran)
      rw [came] at answered
      cases answered
  | turn opening =>
      obtain ⟨other, told, failStop⟩ := happens.failStop visited
      rw [came] at told
      cases told
      obtain ⟨_, bare⟩ := alone.standing_of_recorded failStop.recorded standing
      rcases failStop.succeeded_or with succeeded | ⟨fault, rfl⟩
      · cases made : ((Visit.turn opening).outlook passage.entries).node with
        | some found =>
            rw [failStop.handled succeeded found made]
            exact (bare found made).attach plan.workflow.id
        | none =>
            obtain ⟨response, _, rfl⟩ := failStop.unhandled succeeded made
            exact Node.bare_of_none rfl
      · exact Node.bare_of_none rfl

/-! ### Histories -/

/-- What calls tell of cookies leaves the jar as it stands behind them. -/
theorem JarAlone.standing_of_later (alone : plan.JarAlone own safe depot owner config)
    {start : Engine (Scope (CatalogKey.Config Own Act Ω) Act Ω) Act}
    (history : History plan.workflow JarAside start passages engine)
    (standing : plan.Standing safe depot owner jar start.inner) :
    plan.Standing safe depot owner
      ((passages.flatMap (plan.toldIn depot owner)).foldl CookieEvent.change jar) engine.inner := by
  induction history with
  | begin => exact standing
  | call history happens ih =>
      rw [List.flatMap_append, List.foldl_append, List.flatMap_singleton]
      exact (alone.standing_of_recorded happens.recorded ih).1
  | @drift passages before state history drifted ih =>
      obtain ⟨found, same, plain⟩ := ih.plain
      refine ih.of_plain ?_ (congrFun (congrFun drifted.1 _) _) same (drifted.2 _ plain)
      intro index registration placed
      rw [drifted.1]
      exact ih.bounds index registration placed

theorem JarAlone.standing_of_history (alone : plan.JarAlone own safe depot owner config)
    (history : History plan.workflow JarAside plan.engine passages engine) :
    plan.Standing safe depot owner
      (CookieEvent.jarOf (passages.flatMap (plan.toldIn depot owner))) engine.inner :=
  alone.standing_of_later history alone.standing_built

private theorem JarAlone.bare_of_offered (alone : plan.JarAlone own safe depot owner config)
    (history : History plan.workflow JarAside plan.engine passages engine)
    (offered : visit.Offered passages) : visit.base.cookies = [] := by
  cases visit with
  | signOff => rfl
  | turn opening =>
      cases opening with
      | start request => exact offered
      | next step =>
          rcases offered with bare | ⟨past, member, node, came, next⟩
          · exact bare
          · obtain ⟨earlier, later, same⟩ := List.append_of_mem member
            obtain ⟨behind, happens⟩ := history.split same
            exact alone.bare_upshot happens (alone.standing_of_history behind) came step next

/-- In a history of calls every request that a turn sends has one cookie header for every
cookie that is live by then. -/
theorem JarAlone.replays_of_history (alone : plan.JarAlone own safe depot owner config)
    (history : History plan.workflow JarAside plan.engine passages engine)
    (offered : ∀ earlier passage later, passages = earlier ++ passage :: later →
      passage.visit.Offered earlier)
    (here : passages = earlier ++ passage :: later) (turn : passage.visit = .turn opening)
    (within : passage.entries = sofar ++ entry :: rest)
    (sent : entry.invocation = .transport request) :
    CookieEvent.Replays
      (earlier.flatMap (plan.toldIn depot owner) ++ sofar.flatMap (plan.told depot owner))
      request.cookies := by
  obtain ⟨behind, happens⟩ := history.split here
  have bare := alone.bare_of_offered behind (offered earlier passage later here)
  rw [alone.cookies_of_transport happens turn within sent (alone.standing_of_history behind), bare,
    List.nil_append, ← CookieEvent.jarOf_append]
  exact CookieEvent.replays_jarOf _

/-! ### A login that is retried -/

/-- How a server answers for the first time, and from the second time on: it asks for more
and sets two cookies, then turns the login down, ends one of them and sets another. -/
def cookieAnswer (request : Request) : Bool → Response
  | false => ⟨request, 200, [("set-cookie", "b=2"), ("Set-Cookie", "a=1; Path=/")],
      Response.jsonBytes .emptyObject⟩
  | true => ⟨request, 401, [("Set-Cookie", "b=; Max-Age=0"), ("SET-COOKIE", "c=3")],
      Response.jsonBytes (.ofObject refusalBody)⟩

def retriedLogin : Blueprint (CatalogKey.Config NoneAdded Unit Bool) Unit Bool where
  modules := CatalogKey.module fun id => nomatch id
  settings := ⟨"login", [⟨.cookie, ⟨[], .own ∅, "cookies"⟩, 10, .append⟩,
    ⟨.jsonTransform, .standard, 20, .append⟩], .ofSeconds 30⟩
  id := 7
  transport := fun request => do
    let asked ← Proc.state
    Proc.modify fun _ => true
    pure (cookieAnswer request asked)
  adapter? := fun _ => none
  outside := false

def retriedPassage (opening : Opening Unit)
    (before : Engine (Scope (CatalogKey.Config NoneAdded Unit Bool) Unit Bool) Unit)
    (node : Node Unit) :
    Passage (Scope (CatalogKey.Config NoneAdded Unit Bool) Unit Bool) Unit :=
  ⟨.turn opening, before, (retriedLogin.workflow.logOf (.turn opening) before).entries,
    .node node, ((retriedLogin.workflow.call (.turn opening)).work.run before).2⟩

def firstAsked := retriedPassage (.start .empty) retriedLogin.engine (.continuation moreAsked)

def firstRefused := retriedPassage (.next moreAsked) firstAsked.after (.error refusal)

def thenRetried := retriedPassage (.next moreAsked) firstRefused.after (.error refusal)

private theorem retried_happens {opening : Opening Unit}
    {before : Engine (Scope (CatalogKey.Config NoneAdded Unit Bool) Unit Bool) Unit}
    {node : Node Unit}
    (told : ((retriedLogin.workflow.call (.turn opening)).work.run before).1.toOption.any
      (fun upshot => upshot.node?.any (Node.agrees · node)) = true) :
    (retriedPassage opening before node).Happens retriedLogin.workflow :=
  Workflow.happens_of_agrees told

private theorem retried_history : History retriedLogin.workflow JarAside retriedLogin.engine
    [firstAsked, firstRefused, thenRetried] thenRetried.after := by
  have asked : History retriedLogin.workflow JarAside retriedLogin.engine [firstAsked]
      firstAsked.after := History.begin.call (retried_happens (by decide +kernel))
  have refused : History retriedLogin.workflow JarAside retriedLogin.engine
      [firstAsked, firstRefused] firstRefused.after :=
      asked.call (retried_happens (by decide +kernel))
  exact refused.call
    (retried_happens (by decide +kernel) : thenRetried.Happens retriedLogin.workflow)

private theorem retriedLogin_alone :
    retriedLogin.JarAlone (fun id => nomatch id) (fun _ _ => True) .own 0
    ⟨[], .own ∅, "cookies"⟩ where
  catalog := rfl
  registered := ⟨10, .append, rfl⟩
  once := by
    intro index registration found cookie
    rcases index with _ | _ | index
    · rfl
    · cases found
      cases cookie
    · cases found
  memory := ⟨∅, rfl⟩
  within := by
    intro registration member
    have listed : registration ∈ retriedLogin.settings.registrations := mem_settings member
    simp only [retriedLogin, List.mem_cons, List.not_mem_nil, or_false] at listed
    rcases listed with rfl | rfl <;> trivial
  others := by
    intro registration member id
    exact nomatch id
  adapters := by
    intro action adapt known
    cases known

def sentCookies? : Invocation Unit → Option (List String)
  | .transport request => some request.cookies
  | _ => none

private theorem retried_sent : thenRetried.entries.map
    (fun entry => sentCookies? entry.invocation) =
    [none, some ["a=1", "c=3"], none, none, none] := by decide +kernel

private theorem retried_offered :
    ∀ earlier passage later, [firstAsked, firstRefused, thenRetried] = earlier ++ passage :: later →
      passage.visit.Offered earlier := by
  intro earlier passage later same
  rcases earlier with _ | ⟨asked, _ | ⟨refused, _ | ⟨retried, more⟩⟩⟩
  · cases same
    exact (rfl : Request.empty.cookies = [])
  · cases same
    exact Or.inr ⟨firstAsked, by simp, .continuation moreAsked, rfl, rfl⟩
  · cases same
    exact Or.inr ⟨firstRefused, by simp, .error refusal, rfl, rfl⟩
  · simp at same

/-- The third request has the cookie that the first answer has set and the second has not
ended, and the one that the second has set. -/
theorem replays_of_retried : ∃ sofar entry rest request,
    thenRetried.entries = sofar ++ entry :: rest ∧ entry.invocation = .transport request ∧
      request.cookies = ["a=1", "c=3"] ∧
      CookieEvent.Replays
        ([firstAsked, firstRefused].flatMap (retriedLogin.toldIn .own 0) ++
          sofar.flatMap (retriedLogin.told .own 0)) request.cookies := by
  obtain ⟨built, behind, whole, _, others⟩ := List.map_eq_cons_iff.mp retried_sent
  obtain ⟨sent, rest, rfl, told, _⟩ := List.map_eq_cons_iff.mp others
  obtain ⟨invocation, before, outcome, after⟩ := sent
  cases invocation with
  | transport request =>
      refine ⟨[built], _, rest, request, whole, rfl, Option.some.inj told, ?_⟩
      exact retriedLogin_alone.replays_of_history retried_history retried_offered rfl rfl whole rfl
  | _ => cases told

end Blueprint

end GuidedLogin
