/-
Cookies over whole courses. Until the initial hooks have all succeeded the jar holds
nothing or all that is stored (`waiting_initLog`); from then on what is stored is what is
to be persisted of the jar (`inStep_of_course`). A workflow built on the same storage
begins with just that.
-/
import GuidedLogin.Proofs.Agreement
import GuidedLogin.Proofs.CookieAlone
import GuidedLogin.Proofs.Course
import GuidedLogin.Proofs.Initial

namespace GuidedLogin

variable {ι : Type} {Own : ι → Type} {Act Ω : Type} [DecidableEq ι]

private theorem NameMap.insertAll_self {α : Type} (map : NameMap α) :
    map.insertAll map.entries = map := by
  refine NameMap.ext_find fun name => ?_
  rw [NameMap.find?_insertAll_entries, Option.or_self]

namespace Cookie

/-- Some cookies are stored, and none or all of them are in the jar. -/
def Waiting (stored : CookieJar) (jar kept : CookieJar) : Prop :=
  kept = stored ∧ (jar = ∅ ∨ jar = stored)

/-- Some cookies are stored, and just they are in the jar. -/
def Loaded (stored : CookieJar) (jar kept : CookieJar) : Prop := kept = stored ∧ jar = stored

variable {stored : CookieJar}

theorem waiting_loads (jar kept : CookieJar) (waiting : Waiting stored jar kept) :
    Loaded stored (jar.insertAll kept.entries) kept := by
  obtain ⟨rfl, rfl | rfl⟩ := waiting
  · exact ⟨rfl, NameMap.ofList_entries kept⟩
  · exact ⟨rfl, NameMap.insertAll_self jar⟩

theorem waiting_waits (jar kept : CookieJar) (waiting : Waiting stored jar kept) :
    Waiting stored (jar.insertAll kept.entries) kept := by
  obtain ⟨same, full⟩ := waiting_loads jar kept waiting
  exact ⟨same, Or.inr full⟩

private theorem loaded_loads (jar kept : CookieJar) (loaded : Loaded stored jar kept) :
    Loaded stored (jar.insertAll kept.entries) kept :=
  waiting_loads jar kept ⟨loaded.1, Or.inr loaded.2⟩

end Cookie

namespace Blueprint

/-- What happens between two calls leaves configurations, the jar and what is stored alone. -/
def CookiesAside (depot : Depot Ω) (entry : String)
    (before after : Scope (CatalogKey.Config Own Act Ω) Act Ω) : Prop :=
  after.configs = before.configs ∧ depot.watch entry after.common = depot.watch entry before.common

variable {plan : Blueprint (CatalogKey.Config Own Act Ω) Act Ω}
variable {own : (id : ι) → Module (Own id) Act Ω} {safe : (id : ι) → Own id → Prop}
variable {depot : Depot Ω} {owner : Nat} {config : CookieConfig Ω} {visit : Visit Act}
variable {engine : Engine (Scope (CatalogKey.Config Own Act Ω) Act Ω) Act}
variable {log : Log (Scope (CatalogKey.Config Own Act Ω) Act Ω) Act}
variable {names : List String} {relation : CookieJar → CookieJar → Prop} {stored : CookieJar}

abbrev Relates (plan : Blueprint (CatalogKey.Config Own Act Ω) Act Ω)
    (safe : (id : ι) → Own id → Prop) (depot : Depot Ω) (owner : Nat) (config : CookieConfig Ω)
    (relation : CookieJar → CookieJar → Prop)
    (scope : Scope (CatalogKey.Config Own Act Ω) Act Ω) : Prop :=
  plan.Holding safe depot owner config.storageKey
    (Cookie.Related depot config.persist config.storageKey relation) scope

/-! ### The initial hooks -/

private theorem CookieAlone.relates_init (alone : plan.CookieAlone own safe depot owner config)
    (loads : ∀ jar kept, relation jar kept → relation (jar.insertAll kept.entries) kept)
    {position : Nat} (running : log.halt = none)
    (relates : plan.Relates safe depot owner config relation log.state) :
    plan.Relates safe depot owner config relation
      (plan.workflow.attend visit log (.hook .init position)).state := by
  have due : visit.due? (visit.outlook log.entries) (.hook .init position) =
    some (.init position) := rfl
  rw [Workflow.state_attend running due]
  by_cases owned : plan.ownerAt? .init position = some owner
  · exact alone.perform_load owned relates loads
  · refine alone.perform_other ?_ relates
    intro stage place placed mine
    cases placed
    exact owned mine

theorem CookieAlone.relates_follow_init (alone : plan.CookieAlone own safe depot owner config)
    (loads : ∀ jar kept, relation jar kept → relation (jar.insertAll kept.entries) kept)
    {slots : List Slot} (initial : ∀ slot ∈ slots, ∃ position, slot = .hook .init position)
    (relates : plan.Relates safe depot owner config relation log.state) :
    plan.Relates safe depot owner config relation
      (plan.workflow.follow visit log slots).state := by
  refine Workflow.follow_induction
    (fun reached => plan.Relates safe depot owner config relation reached.state) slots relates ?_
  intro reached slot invocation member relates running due
  obtain ⟨position, rfl⟩ := initial slot member
  exact alone.relates_init loads running relates

private theorem CookieAlone.exists_init (alone : plan.CookieAlone own safe depot owner config) :
    ∃ position, position < plan.workflow.hooks.init.length ∧
      plan.ownerAt? .init position = some owner := by
  obtain ⟨priority, mode, registered⟩ := alone.registered
  have yields : ∀ view, ∃ hook ∈ ((plan.modules .cookie).setup view).1, hook.stage = .init := by
    rw [alone.catalog]
    intro view
    exact ⟨.init Cookie.load, .head _, rfl⟩
  obtain ⟨position, within, owned⟩ := exists_position registered yields
  rw [HookTable.stage, List.length_map] at within
  exact ⟨position, within, owned⟩

/-- Initial hooks among which the one that loads is, if none of them fails. -/
theorem CookieAlone.loaded_follow (alone : plan.CookieAlone own safe depot owner config)
    {slots : List Slot} {position : Nat} (member : Slot.hook .init position ∈ slots)
    (owned : plan.ownerAt? .init position = some owner)
    (initial : ∀ slot ∈ slots, ∃ position, slot = .hook .init position)
    (waiting : plan.Relates safe depot owner config (Cookie.Waiting stored) log.state)
    (running : (plan.workflow.follow visit log slots).halt = none) :
    plan.Relates safe depot owner config (Cookie.Loaded stored)
      (plan.workflow.follow visit log slots).state := by
  obtain ⟨front, back, rfl⟩ := List.append_of_mem member
  rw [Workflow.follow_append, Workflow.follow_cons] at running ⊢
  have before : plan.Relates safe depot owner config (Cookie.Waiting stored)
      (plan.workflow.follow visit log front).state :=
    alone.relates_follow_init Cookie.waiting_waits
      (fun slot inFront => initial slot (List.mem_append_left _ inFront)) waiting
  cases halted : (plan.workflow.follow visit log front).halt with
  | some fault =>
      rw [Workflow.attend_of_halt halted, Workflow.follow_of_halt halted, halted] at running
      cases running
  | none =>
      refine alone.relates_follow_init Cookie.loaded_loads
        (fun slot inBack => initial slot (List.mem_append_right _ (.tail _ inBack))) ?_
      have due : visit.due? (visit.outlook (plan.workflow.follow visit log front).entries)
          (.hook .init position) = some (.init position) := rfl
      rw [Workflow.state_attend halted due]
      exact alone.perform_load owned before Cookie.waiting_loads

/-- The initial hooks, and all of them if none of them fails. -/
theorem CookieAlone.waiting_initLog (alone : plan.CookieAlone own safe depot owner config)
    (visit : Visit Act) (opening : engine.initialized = false)
    (waiting : plan.Relates safe depot owner config (Cookie.Waiting stored) engine.inner) :
    plan.Relates safe depot owner config (Cookie.Waiting stored)
        (plan.workflow.initLog visit engine).state ∧
      ((plan.workflow.initLog visit engine).halt = none →
        plan.Relates safe depot owner config (Cookie.Loaded stored)
          (plan.workflow.initLog visit engine).state) := by
  obtain ⟨position, within, owned⟩ := alone.exists_init
  have slots : plan.workflow.initAgenda engine.initialized =
      Workflow.stageSlots .init 0 plan.workflow.hooks.init.length := by
    rw [opening]
    rfl
  unfold Workflow.initLog
  rw [slots]
  have initial : ∀ slot ∈ Workflow.stageSlots .init 0 plan.workflow.hooks.init.length,
      ∃ position, slot = .hook .init position := by
    intro slot member
    obtain ⟨position, same, _⟩ := Workflow.mem_stageSlots.mp member
    exact ⟨position, same⟩
  have member : Slot.hook .init position ∈
      Workflow.stageSlots .init 0 plan.workflow.hooks.init.length :=
    Workflow.mem_stageSlots.mpr ⟨position, rfl, Nat.zero_le _, by omega⟩
  constructor
  · exact alone.relates_follow_init Cookie.waiting_waits initial waiting
  · exact alone.loaded_follow member owned initial waiting

/-! ### Whole calls -/

abbrev Mirrors (config : CookieConfig Ω) (jar kept : CookieJar) : Prop :=
  kept = jar.keep config.persist.contains

/-- The jar and what is stored before and after the initial hooks have all succeeded. -/
def InStep (plan : Blueprint (CatalogKey.Config Own Act Ω) Act Ω)
    (safe : (id : ι) → Own id → Prop) (depot : Depot Ω) (owner : Nat) (config : CookieConfig Ω)
    (stored : CookieJar) (initialized : Bool)
    (scope : Scope (CatalogKey.Config Own Act Ω) Act Ω) : Prop :=
  plan.Relates safe depot owner config
    (if initialized then Mirrors config else Cookie.Waiting stored) scope

private theorem CookieAlone.mirrors_agenda (alone : plan.CookieAlone own safe depot owner config)
    (mirrors : plan.Relates safe depot owner config (Mirrors config) log.state) :
    plan.Relates safe depot owner config (Mirrors config)
      (plan.workflow.follow visit log (plan.workflow.agenda visit)).state := by
  refine Workflow.follow_induction
    (fun reached => plan.Relates safe depot owner config (Mirrors config) reached.state)
    _ mirrors ?_
  intro reached slot invocation member mirrors running due
  rw [Workflow.state_attend running due]
  refine alone.perform_mirrored ?_ mirrors
  intro position initial
  rw [Visit.slot_of_due due] at initial
  subst initial
  exact Workflow.not_mem_agenda plan.workflow visit position member

/-- A call leaves the jar and what is stored in step, whatever it comes to. -/
theorem CookieAlone.inStep_logOf (alone : plan.CookieAlone own safe depot owner config)
    (named : stored.keep config.persist.contains = stored) (visit : Visit Act)
    (inStep : plan.InStep safe depot owner config stored engine.initialized engine.inner) :
    plan.InStep safe depot owner config stored (plan.workflow.opened visit engine)
      (plan.workflow.logOf visit engine).state := by
  rw [Workflow.logOf_eq]
  unfold InStep Workflow.opened at *
  cases initialized : engine.initialized with
  | true =>
      rw [initialized] at inStep
      have idle : plan.workflow.initLog visit engine = .begin engine.inner := by
        unfold Workflow.initLog Workflow.initAgenda
        rw [initialized]
        rfl
      rw [idle]
      exact alone.mirrors_agenda inStep
  | false =>
      rw [initialized] at inStep
      obtain ⟨waiting, loaded⟩ :=
        alone.waiting_initLog visit initialized inStep
      cases halted : (plan.workflow.initLog visit engine).halt with
      | some fault =>
          rw [Workflow.follow_of_halt halted]
          exact waiting
      | none =>
          refine alone.mirrors_agenda ⟨(loaded halted).bounds, ?_⟩
          obtain ⟨jar, kept, found, rfl, full⟩ := (loaded halted).seen
          refine ⟨jar, kept, found, ?_⟩
          rw [Mirrors, full, named]

private theorem CookieAlone.inStep_of_course (alone : plan.CookieAlone own safe depot owner config)
    (named : stored.keep config.persist.contains = stored) {events : List (Event Act)}
    {last : Engine (Scope (CatalogKey.Config Own Act Ω) Act Ω) Act}
    (start : plan.InStep safe depot owner config stored false plan.engine.inner)
    (course : Course plan.workflow (CookiesAside depot config.storageKey) plan.engine events
      last) :
    plan.InStep safe depot owner config stored last.initialized last.inner := by
  induction course with
  | begin => exact start
  | turn course ran traced ih =>
      obtain ⟨_, state, initialized, _⟩ := Course.made_of_turn ran traced
      rw [state, initialized]
      exact alone.inStep_logOf named _ ih
  | signOff course ran traced ih =>
      obtain ⟨_, state, initialized⟩ := Course.made_of_signOff ran traced
      rw [state, initialized]
      exact alone.inStep_logOf named _ ih
  | @drift events before state course drifted ih =>
      obtain ⟨sameConfigs, sameWatch⟩ := drifted
      refine alone.related_of_shows ih.seen ⟨?_, sameWatch⟩
      rw [sameConfigs]
      exact (alone.shows ih).1

def firstSight (config : CookieConfig Ω) (outside : Ω) : Cookie.Sight Act Ω :=
  ⟨config, ⟨∅, outside⟩⟩

private theorem CookieAlone.inStep_built (alone : plan.CookieAlone own safe depot owner config)
    (readable : depot.cookies (firstSight config plan.outside : Cookie.Sight Act Ω) =
      .ok stored) :
    plan.InStep safe depot owner config stored false plan.engine.inner := by
  obtain ⟨priority, mode, registered⟩ := alone.registered
  let first : Scope (CatalogKey.Config Own Act Ω) Act Ω :=
    ⟨Workflow.configsOf plan.modules plan.registrations, ⟨∅, plan.outside⟩⟩
  have sees : sightOf owner first = firstSight config plan.outside := by
    have configured := configsOf_registered registered
    change (⟨Workflow.configsOf plan.modules plan.registrations CatalogKey.cookie owner,
      ⟨∅, plan.outside⟩⟩ : Cookie.Sight Act Ω) = _
    rw [configured]
    rfl
  have shown := (alone.undisturbed config).built (by
    intro registration member
    obtain ⟨index, placed⟩ := List.mem_iff_getElem?.mp member
    apply CatalogKey.safeAt_rebound (alone.within registration member)
    have once := alone.once index registration placed
    obtain ⟨key, settings, priority, mode⟩ := registration
    intro current same here
    cases same
    cases once rfl
    rw [registered] at placed
    cases placed
    exact (eq_of_heq here).symm)
  have related : Cookie.Related depot config.persist config.storageKey (Cookie.Waiting stored)
      (sightOf owner first) := by
    rw [sees]
    exact ⟨none, stored, ⟨alone.memory, rfl, rfl, rfl, readable⟩, rfl, Or.inl rfl⟩
  apply alone.related_of_shows related
  rw [sees]
  exact shown

theorem keep_eq_self {jar : CookieJar} {test : String → Bool}
    (named : ∀ name ∈ jar.names, test name) : jar.keep test = jar := by
  refine NameMap.ext_find fun name => ?_
  rw [NameMap.find?_keep]
  by_cases found : jar.contains name
  · rw [if_pos (named name ((NameMap.mem_names_iff_contains jar name).mpr found))]
  · have absent : jar.find? name = none := Option.not_isSome_iff_eq_none.mp found
    rw [absent, ite_self]

/-- In a course of calls, whatever they are answered and whatever fails, the cookies stored
are those of the jar that are to be persisted once the initial hooks have succeeded. A
workflow built where the same is stored has just them in its jar behind its initial hooks. -/
theorem CookieAlone.persisted_of_course (alone : plan.CookieAlone own safe depot owner config)
    (readable : depot.cookies (firstSight config plan.outside : Cookie.Sight Act Ω) = .ok stored)
    (named : ∀ name ∈ stored.names, name ∈ config.persist) {events : List (Event Act)}
    {last : Engine (Scope (CatalogKey.Config Own Act Ω) Act Ω) Act}
    (course : Course plan.workflow (CookiesAside depot config.storageKey) plan.engine events last)
    (initialized : last.initialized = true) :
    ∃ jar, Cookie.jar last.inner.common.context = .ok jar ∧
      depot.cookies (sightOf owner last.inner) = .ok (jar.keep config.persist.contains) ∧
      ∀ (fresh : Blueprint (CatalogKey.Config Own Act Ω) Act Ω)
        (ownFresh : (id : ι) → Module (Own id) Act Ω) (safeFresh : (id : ι) → Own id → Prop)
        (depotFresh : Depot Ω) (ownerFresh : Nat) (configFresh : CookieConfig Ω)
        (after : Engine (Scope (CatalogKey.Config Own Act Ω) Act Ω) Act),
        fresh.CookieAlone ownFresh safeFresh depotFresh ownerFresh configFresh →
        depotFresh.text (firstSight configFresh fresh.outside : Cookie.Sight Act Ω) =
          depot.text (sightOf owner last.inner) →
        fresh.workflow.ensureInit.run fresh.engine = (.ok (), after) →
        Cookie.jar after.inner.common.context = .ok (jar.keep config.persist.contains) := by
  have kept : stored.keep config.persist.contains = stored :=
    keep_eq_self fun name member => List.contains_iff_mem.mpr (named name member)
  have inStep := alone.inStep_of_course kept (alone.inStep_built readable) course
  rw [initialized] at inStep
  obtain ⟨jar, image, found, mirrors⟩ := inStep.seen
  refine ⟨jar.getD ∅, found.jar_eq, found.stored.trans (congrArg Except.ok mirrors), ?_⟩
  intro fresh ownFresh safeFresh depotFresh ownerFresh configFresh after aloneFresh text ran
  have readableFresh : depotFresh.cookies (firstSight configFresh fresh.outside) = .ok image :=
    (congrArg Depot.decode text).trans found.stored
  obtain ⟨outcome, told, decided⟩ :=
    Workflow.run_ensureInit fresh.workflow .signOff fresh.engine
  rw [told] at ran
  cases ran
  have running : (fresh.workflow.initLog .signOff fresh.engine).halt = none := by
    cases halted : (fresh.workflow.initLog .signOff fresh.engine).halt with
    | none => rfl
    | some fault =>
        rw [halted] at decided
        cases decided
  obtain ⟨next, again, foundFresh, rfl, full⟩ :=
    ((aloneFresh.waiting_initLog .signOff rfl (aloneFresh.inStep_built readableFresh)).2
      running).seen
  rw [← mirrors, ← full]
  exact foundFresh.jar_eq

/-! ### A login that is remembered -/

def rememberedConfig (content : NameMap String) : CookieConfig Unit :=
  ⟨["ST"], .own content, "cookies"⟩

/-- A login that is answered with two cookies, one of which is to be persisted. -/
def rememberedLogin (content : NameMap String) :
    Blueprint (CatalogKey.Config NoneAdded Unit Unit) Unit Unit where
  modules := CatalogKey.module fun id => nomatch id
  settings := ⟨"login", [⟨.cookie, rememberedConfig content, 10, .append⟩], .ofSeconds 30⟩
  id := 0
  transport := fun request =>
    .done ⟨request, 200, [("Set-Cookie", "ST=1; Path=/"), ("Set-Cookie", "tmp=2")], []⟩
  adapter? := fun _ => none
  outside := ()

/-- The first login comes to nothing, but not without its cookies. -/
def firstRun := ((rememberedLogin ∅).workflow.begin (.start .empty)).work.run
  (rememberedLogin ∅).engine

def leftBehind : NameMap String := Depot.own.part.get (sightOf 0 firstRun.2.inner)

def secondRun := (rememberedLogin leftBehind).workflow.ensureInit.run
  (rememberedLogin leftBehind).engine

private theorem run_first : firstRun = (.ok (.failure (.unhandledResponse 200)), firstRun.2) := by
  have answer : firstRun.1 = .ok (.failure (.unhandledResponse 200)) :=
    Node.eq_ok_of_agrees (by decide +kernel)
  rw [← answer]

private theorem run_second : secondRun = (.ok (), secondRun.2) := by
  have answer : secondRun.1 = .ok () := eq_ok_of_isSome (by decide +kernel)
  rw [← answer]

private theorem rememberedLogin_alone (content : NameMap String) :
    (rememberedLogin content).CookieAlone (fun id => nomatch id) (fun _ _ => True) .own 0
      (rememberedConfig content) where
  catalog := rfl
  registered := ⟨10, .append, rfl⟩
  once := by
    intro index registration found cookie
    have listed : (rememberedLogin content).registrations.length = 1 := rfl
    have within := (List.getElem?_eq_some_iff.mp found).1
    omega
  memory := ⟨content, rfl⟩
  within := by
    intro registration member
    cases List.mem_singleton.mp member
    trivial
  others := by
    intro registration member id
    exact nomatch id
  adapters := by
    intro action adapt known
    cases known
  transport := by
    intro request limit value outside held
    exact held

theorem persisted_of_remembered :
    Depot.own.cookies (sightOf 0 firstRun.2.inner) = .ok (NameMap.ofList [("ST", "1")]) ∧
      Cookie.jar secondRun.2.inner.common.context = .ok (NameMap.ofList [("ST", "1")]) := by
  have readable : Depot.own.cookies (firstSight (rememberedConfig ∅) () : Cookie.Sight Unit Unit) =
      .ok ∅ := rfl
  have course : Course (rememberedLogin ∅).workflow (CookiesAside .own "cookies")
      (rememberedLogin ∅).engine _ firstRun.2 := Course.begin.answered run_first
  have initialized : firstRun.2.initialized = true := by decide +kernel
  obtain ⟨jar, held, image, restored⟩ := (rememberedLogin_alone ∅).persisted_of_course readable
    (by
      intro name member
      cases member) course initialized
  have filled : Cookie.jar firstRun.2.inner.common.context =
      .ok (NameMap.ofList [("ST", "1"), ("tmp", "2")]) :=
    eq_ok_of_any (fun _ same => of_decide_eq_true same) (by decide +kernel)
  cases filled.symm.trans held
  exact ⟨image, restored (rememberedLogin leftBehind) _ _ .own 0 (rememberedConfig leftBehind) _
    (rememberedLogin_alone leftBehind) rfl run_second⟩

end Blueprint

end GuidedLogin
