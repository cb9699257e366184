/-
Sign-offs that take the cookies along. As long as no other hook of a sign-off touches the
jar, what is stored of it or the cookie headers, the request that stands in the end has
one header for every cookie, and behind the sign-off there is neither a jar nor anything
stored of it, whatever else failed (`Departing.departs`). So no later turn sends one of
these cookies (`JarAlone.silent`).
-/
import GuidedLogin.Proofs.CutShort
import GuidedLogin.Proofs.InitDiscipline
import GuidedLogin.Proofs.Replay

namespace GuidedLogin

variable {ι : Type} {Own : ι → Type} {σ C Act Ω : Type}

theorem Cookie.run_forget_gone {depot : Depot Ω} {sight : Cookie.Sight Act Ω}
    (fits : depot.Fits sight.config) :
    ∃ after, (Cookie.forget : Proc (Cookie.Sight Act Ω) Unit).run sight = (.ok (), after) ∧
      depot.Fits after.config ∧ after.config.storageKey = sight.config.storageKey ∧
      after.common.shared cookieJarKey = none ∧ depot.text after = none := by
  have fitsStill : depot.Fits (sight.withContext (sight.context.erase cookieJarKey)).config := fits
  refine ⟨_, Cookie.run_forget_eq fits, depot.fits_set fitsStill _, (depot.policy_set _ _).2, ?_, ?_⟩
  · unfold Common.shared
    rw [depot.context_set]
    exact shared_erase_self sight cookieJarKey
  · unfold Depot.text
    rw [depot.part_get_set fitsStill, (depot.policy_set _ _).2, NameMap.find?_erase]
    exact if_pos rfl

theorem Hook.run_answer_signOff (work : Request → Proc σ Request) (position : Nat)
    (request : Request) (state : σ) :
    ((Hook.signOff work : Hook σ Act).answer (.signOff position request)).run state =
      (((work request).run state).1.map .request, ((work request).run state).2) :=
  Proc.run_bind_done _ _ _

/-- What is yielded stands over what stood before. -/
theorem standing_note {S : Type} {entries : List (LogEntry S Act)} {noted : LogEntry S Act} :
    standing (entries ++ [noted]) =
      match noted.outcome with
      | .ok yield => yield.over (standing entries)
      | .error _ => standing entries := by
  rw [standing_append_singleton]
  unfold LogEntry.built?
  rcases noted.outcome with fault | yield
  · rfl
  · cases yield <;> rfl

private theorem Recorded.of_append {κ S : Type} {workflow : Workflow κ S Act} {visit : Visit Act}
    {first last : S} {entries later : List (LogEntry S Act)}
    (recorded : Recorded workflow visit first (entries ++ later) last) :
    ∃ middle, Recorded workflow visit first entries middle := by
  cases later with
  | nil => exact ⟨last, by rwa [List.append_nil] at recorded⟩
  | cons entry rest => exact ⟨entry.before, (recorded.split rfl).1⟩

private theorem History.initialized_of_first {κ S : Type} {workflow : Workflow κ S Act}
    {drift : S → S → Prop} {first last : Engine S Act} {passages : List (Passage S Act)}
    (history : History workflow drift first passages last) (initialized : first.initialized = true) :
    last.initialized = true := by
  induction history with
  | begin => exact initialized
  | call history happens ih => exact happens.initialized_iff.mpr (Or.inl ih)
  | drift history drifted ih => exact ih

private theorem BestEffort.slot_of_sent {κ S : Type} {workflow : Workflow κ S Act}
    {before ready after : Engine S Act} {hooks sent : List (LogEntry S Act)}
    {outcome : Except Error Unit} {noted : LogEntry S Act}
    (effort : BestEffort workflow before ready after hooks sent outcome) (member : noted ∈ sent) :
    noted.slot = .transport := by
  have invoked : noted.invocation ∈ sent.map LogEntry.invocation := List.mem_map_of_mem member
  rw [effort.sends] at invoked
  split at invoked
  · rw [LogEntry.slot, List.mem_singleton.mp invoked]
    rfl
  · cases invoked

/-! ### Hooks that leave the cookies alone -/

structure View.Parting (safe : C → Prop) (depot : Depot Ω) (entry : String)
    (found : Option (Valued Act)) (gone : Bool) (view : View C Act Ω) : Prop where
  within : safe view.config
  jar : view.common.shared cookieJarKey = found
  gone : gone = true → depot.textOutside entry view.common.outside = none

/-- Work that may fail but does not panic, and neither adds nor drops cookie headers. -/
def Quiet (holds : σ → Prop) (work : Request → Proc σ Request) : Prop :=
  ∀ request state, holds state →
    holds ((work request).run state).2 ∧
      (∀ payload, ((work request).run state).1 ≠ .error (.panic payload)) ∧
      ∀ built, ((work request).run state).1 = .ok built → built.cookies = request.cookies

/-- Work that only answers, with an error or a request with the headers given, is quiet. -/
theorem quiet_of_answer {holds : σ → Prop} {work : Request → Proc σ Request}
    (answer : σ → Request → Except Error Request)
    (ran : ∀ request state,
      (work request).run state = ((answer state request).mapError .error, state))
    (same : ∀ state request built, answer state request = .ok built →
      built.cookies = request.cookies) : Quiet holds work := by
  intro request state held
  rw [ran]
  cases answered : answer state request with
  | error cause =>
      refine ⟨held, ?_, ?_⟩
      · intro payload panicked
        cases panicked
      · intro built ended
        cases ended
  | ok target =>
      refine ⟨held, ?_, ?_⟩
      · intro payload panicked
        cases panicked
      · intro built ended
        cases ended
        exact same state request target answered

/-- A module whose hooks leave the cookies to others when a session ends. -/
def Module.PartsQuietly (module : Module C Act Ω) (safe : C → Prop) (depot : Depot Ω)
    (entry : String) : Prop :=
  ∀ view, safe view.config → ∀ work, Hook.signOff work ∈ (module.setup view).1 →
    ∀ found gone, Quiet (View.Parting safe depot entry found gone) work

variable {depot : Depot Ω} {entry : String}

theorem partsQuietly_of_none {module : Module C Act Ω} {safe : C → Prop}
    (none : ∀ view work, Hook.signOff work ∉ (module.setup view).1) :
    module.PartsQuietly safe depot entry :=
  fun view _ work member => absurd member (none view work)

theorem partsQuietly_endpoint (safe : EndpointConfig → Prop) :
    (Module.endpoint : Module EndpointConfig Act Ω).PartsQuietly safe depot entry := by
  intro view _ work member found gone
  simp only [Module.endpoint, Module.ofHooks, List.mem_cons, List.not_mem_nil, or_false,
    reduceCtorEq, false_or, Hook.signOff.injEq] at member
  subst member
  refine quiet_of_answer (fun view request => view.config.applySignOff request) ?_ ?_
  · intro request view
    change (Proc.ofExcept (view.config.applySignOff request)).run view = _
    cases view.config.applySignOff request <;> rfl
  · intro view request built applied
    exact EndpointConfig.cookies_target applied

theorem CatalogKey.partsQuietly_module {own : (id : ι) → Module (Own id) Act Ω}
    {safe : (id : ι) → Own id → Prop} {key : CatalogKey ι} (notCookie : key ≠ .cookie)
    (others : ∀ id, key = .added id → (own id).PartsQuietly (safe id) depot entry) :
    (CatalogKey.module own key).PartsQuietly
      (CatalogKey.safeAt safe (fun _ => True) (fun _ => True) key) depot entry := by
  cases key with
  | endpoint => exact partsQuietly_endpoint _
  | customHeader =>
      refine partsQuietly_of_none fun view work => ?_
      simp [module, Module.customHeader, Module.ofHooks]
  | cookie => exact absurd rfl notCookie
  | jsonTransform =>
      refine partsQuietly_of_none fun view work => ?_
      simp [module, Module.jsonTransform, Module.ofHooks]
  | added id => exact others id rfl

variable [DecidableEq ι]

namespace Blueprint

/-- A workflow with one registration of the cookies, at a position in the execution order,
where no other hook of a sign-off touches the cookies and the transport stores none. -/
structure Departing (plan : Blueprint (CatalogKey.Config Own Act Ω) Act Ω)
    (own : (id : ι) → Module (Own id) Act Ω) (safe : (id : ι) → Own id → Prop)
    (depot : Depot Ω) (owner : Nat) (entry : String) : Prop where
  catalog : plan.modules = CatalogKey.module own
  registered : ∃ config priority mode,
    plan.registrations[owner]? = some ⟨.cookie, config, priority, mode⟩
  once : ∀ (index : Nat) (registration : Registration (CatalogKey.Config Own Act Ω)),
    plan.registrations[index]? = some registration → registration.key = .cookie → index = owner
  within : ∀ registration ∈ plan.registrations,
    CatalogKey.safeAt safe (fun _ => True) (fun _ => True) registration.key registration.config
  others : ∀ registration ∈ plan.registrations, ∀ id, registration.key = .added id →
    (own id).PartsQuietly (safe id) depot entry
  transport : ∀ request limit, (Proc.within limit (plan.transport request)).Maintains
    fun outside => depot.textOutside entry outside = none

structure Parting (plan : Blueprint (CatalogKey.Config Own Act Ω) Act Ω)
    (safe : (id : ι) → Own id → Prop) (depot : Depot Ω) (owner : Nat) (entry : String)
    (found : Option CookieJar) (gone : Bool) (scope : Scope (CatalogKey.Config Own Act Ω) Act Ω) :
    Prop where
  bounds : ∀ (index : Nat) (registration : Registration (CatalogKey.Config Own Act Ω)),
    plan.registrations[index]? = some registration →
    CatalogKey.safeAt safe (fun _ => True) (fun _ => True) registration.key
      (scope.configs registration.key index)
  fits : depot.Fits (sightOf owner scope).config
  entry : (sightOf owner scope).config.storageKey = entry
  jar : scope.common.shared cookieJarKey = Cookie.sharedJar found
  gone : gone = true → depot.text (sightOf owner scope) = none

variable {plan : Blueprint (CatalogKey.Config Own Act Ω) Act Ω}
variable {own : (id : ι) → Module (Own id) Act Ω} {safe : (id : ι) → Own id → Prop}
variable {owner : Nat} {scope : Scope (CatalogKey.Config Own Act Ω) Act Ω}
variable {found : Option CookieJar} {gone : Bool}

namespace Parting

private theorem held (parting : plan.Parting safe depot owner entry found gone scope) :
    Cookie.Held depot (found.getD ∅) (sightOf owner scope) :=
  ⟨parting.fits, found, parting.jar, rfl⟩

private theorem view {index : Nat} {registration : Registration (CatalogKey.Config Own Act Ω)}
    (parting : plan.Parting safe depot owner entry found gone scope)
    (registered : plan.registrations[index]? = some registration) :
    ((Scope.viewPart registration.key index).get scope).Parting
      (CatalogKey.safeAt safe (fun _ => True) (fun _ => True) registration.key) depot entry
      (Cookie.sharedJar found) gone where
  within := parting.bounds index registration registered
  jar := parting.jar
  gone := by
    intro isGone
    have outside := depot.textOutside_of_text (parting.gone isGone)
    rwa [parting.entry] at outside

private theorem set {index : Nat} {registration : Registration (CatalogKey.Config Own Act Ω)}
    (parting : plan.Parting safe depot owner entry found gone scope)
    (registered : plan.registrations[index]? = some registration) (apart : index ≠ owner)
    {view : View (CatalogKey.Config Own Act Ω registration.key) Act Ω}
    (left : view.Parting
      (CatalogKey.safeAt safe (fun _ => True) (fun _ => True) registration.key) depot entry
      (Cookie.sharedJar found) gone) :
    plan.Parting safe depot owner entry found gone
      ((Scope.viewPart registration.key index).set view scope) := by
  have config : (sightOf owner ((Scope.viewPart registration.key index).set view scope)).config =
      (sightOf owner scope).config :=
    Scope.setConfig_of_ne scope.configs _ _ _ (Ne.symm apart)
  refine ⟨?_, ?_, ?_, left.jar, ?_⟩
  · intro other another placed
    change CatalogKey.safeAt safe _ _ another.key
      (Scope.setConfig scope.configs registration.key index view.config another.key other)
    by_cases here : other = index
    · subst here
      rw [registered] at placed
      cases placed
      rw [Scope.setConfig_self]
      exact left.within
    · rw [Scope.setConfig_of_ne _ _ _ _ here]
      exact parting.bounds other another placed
  · rw [config]
    exact parting.fits
  · rw [config]
    exact parting.entry
  · intro isGone
    refine depot.text_of_textOutside config (parting.gone isGone) ?_
    rw [parting.entry]
    exact left.gone isGone

private theorem forgotten (parting : plan.Parting safe depot owner entry found gone scope)
    {config : CookieConfig Ω} {priority : Int} {mode : OverrideMode}
    (registered : plan.registrations[owner]? = some ⟨.cookie, config, priority, mode⟩)
    {after : Cookie.Sight Act Ω} (fits : depot.Fits after.config)
    (same : after.config.storageKey = (sightOf owner scope).config.storageKey)
    (jar : after.common.shared cookieJarKey = none) (text : depot.text after = none) :
    plan.Parting safe depot owner entry none true ((cookiePart owner).set after scope) := by
  have sight : sightOf owner ((cookiePart owner).set after scope) = after := by
    change (cookiePart owner).get ((cookiePart owner).set after scope) = after
    rw [(Scope.viewPart_lawful CatalogKey.cookie owner).get_set]
  refine ⟨?_, ?_, ?_, jar, ?_⟩
  · intro index registration placed
    change CatalogKey.safeAt safe _ _ registration.key
      (Scope.setConfig scope.configs CatalogKey.cookie owner after.config registration.key index)
    by_cases here : index = owner
    · subst here
      rw [registered] at placed
      cases placed
      trivial
    · rw [Scope.setConfig_of_ne _ _ _ _ here]
      exact parting.bounds index registration placed
  · rw [sight]
    exact fits
  · rw [sight, same]
    exact parting.entry
  · intro _
    rw [sight]
    exact text

end Parting

/-! ### The hooks of a sign-off -/

variable {position : Nat}

/-- A hook of another registration leaves the cookies alone. -/
theorem Departing.perform_other (departing : plan.Departing own safe depot owner entry)
    (request : Request)
    (other : plan.ownerAt? .signOff position ≠ some owner)
    (parting : plan.Parting safe depot owner entry found gone scope) :
    plan.Parting safe depot owner entry found gone
        ((plan.workflow.perform .signOff (.signOff position request)).run scope).2 ∧
      (∀ payload, ((plan.workflow.perform .signOff (.signOff position request)).run scope).1 ≠
        .error (.panic payload)) ∧
      ∀ yield, ((plan.workflow.perform .signOff (.signOff position request)).run scope).1 =
        .ok yield → (yield.over request).cookies = request.cookies := by
  have placed : (Invocation.signOff position request : Invocation Act).slot =
      .hook .signOff position := rfl
  rcases plan.run_perform_hook .signOff placed scope with
    ⟨_, ran⟩ | ⟨index, registration, hook, owned, origin, ran⟩
  · rw [ran]
    refine ⟨parting, ?_, ?_⟩
    · intro payload panicked
      cases panicked
    · intro yield ended
      cases ended
      rfl
  · have apart : index ≠ owner := by
      rintro rfl
      exact other owned
    have quiet : (plan.modules registration.key).PartsQuietly
        (CatalogKey.safeAt safe (fun _ => True) (fun _ => True) registration.key) depot entry := by
      rw [departing.catalog]
      exact CatalogKey.partsQuietly_module
        (fun cookie => apart (departing.once index registration origin.registered cookie))
        (departing.others registration (List.mem_of_getElem? origin.registered))
    obtain ⟨view, configured, yielded⟩ := origin.yielded
    have safely := departing.within registration (List.mem_of_getElem? origin.registered)
    have staged := origin.staged
    cases hook <;> cases staged
    rename_i work
    obtain ⟨left, calm, same⟩ := quiet view (configured ▸ safely) work yielded _ gone request _
      (parting.view origin.registered)
    rw [ran, Hook.run_answer_signOff]
    refine ⟨parting.set origin.registered apart left, ?_, ?_⟩
    · intro payload panicked
      cases ended : ((work request).run ((Scope.viewPart registration.key index).get scope)).1 with
      | error fault =>
          rw [ended] at panicked
          cases panicked
          exact calm payload ended
      | ok built =>
          rw [ended] at panicked
          cases panicked
    · intro yield came
      cases ended : ((work request).run ((Scope.viewPart registration.key index).get scope)).1 with
      | error fault =>
          rw [ended] at came
          cases came
      | ok built =>
          rw [ended] at came
          cases came
          exact same built ended

/-- The hook of the cookies adds a header for every one, and forgets them. -/
theorem Departing.perform_own (departing : plan.Departing own safe depot owner entry)
    (request : Request)
    (owned : plan.ownerAt? .signOff position = some owner)
    (parting : plan.Parting safe depot owner entry found gone scope) :
    ∃ after, (plan.workflow.perform .signOff (.signOff position request)).run scope =
        (.ok (.request ((found.getD ∅).attach request)), after) ∧
      plan.Parting safe depot owner entry none true after := by
  obtain ⟨config, priority, mode, registered⟩ := departing.registered
  obtain ⟨view, hook, member, staged, ran⟩ := exists_cookieHook departing.catalog registered .signOff
    (.signOff position request) rfl owned scope
  have forgets : hook = .signOff Cookie.signOff := by
    simp only [Module.cookie, Module.ofHooks, List.mem_cons, List.not_mem_nil, or_false] at member
    rcases member with rfl | rfl | rfl | rfl | rfl <;> first | rfl | cases staged
  subst forgets
  obtain ⟨after, forgot, fits, same, jar, text⟩ := Cookie.run_forget_gone parting.fits
  rw [Hook.run_answer_signOff, Cookie.run_signOff_eq parting.jar, forgot] at ran
  exact ⟨_, ran, parting.forgotten registered fits same jar text⟩

private theorem Departing.perform_transport (departing : plan.Departing own safe depot owner entry)
    (request : Request)
    (parting : plan.Parting safe depot owner entry found gone scope) :
    plan.Parting safe depot owner entry found gone
      ((plan.workflow.perform .signOff (.transport request)).run scope).2 := by
  rw [run_perform_transport]
  refine ⟨parting.bounds, parting.fits, parting.entry, parting.jar, ?_⟩
  intro isGone
  have outside := depot.textOutside_of_text (parting.gone isGone)
  refine depot.text_of_textOutside ?_ (parting.gone isGone) ?_
  · rfl
  · rw [parting.entry] at outside ⊢
    exact departing.transport request _ _ outside

/-! ### Whole sign-offs -/

variable {entries hooks : List (LogEntry (Scope (CatalogKey.Config Own Act Ω) Act Ω) Act)}
variable {noted : LogEntry (Scope (CatalogKey.Config Own Act Ω) Act Ω) Act}
variable {first last : Scope (CatalogKey.Config Own Act Ω) Act Ω}
variable {before ready after : Engine (Scope (CatalogKey.Config Own Act Ω) Act Ω) Act}

def attends (plan : Blueprint (CatalogKey.Config Own Act Ω) Act Ω) (owner : Nat)
    (entries : List (LogEntry (Scope (CatalogKey.Config Own Act Ω) Act Ω) Act)) : Bool :=
  entries.any fun entry => plan.ownerOf? entry.slot = some owner

/-- How far a sign-off has come: up to the hook of the cookies the jar is what it was and no
header is added, from there on the cookies are gone and have one header each. -/
structure Leaving (plan : Blueprint (CatalogKey.Config Own Act Ω) Act Ω)
    (safe : (id : ι) → Own id → Prop) (depot : Depot Ω) (owner : Nat) (entry : String)
    (found : Option CookieJar)
    (entries : List (LogEntry (Scope (CatalogKey.Config Own Act Ω) Act Ω) Act))
    (scope : Scope (CatalogKey.Config Own Act Ω) Act Ω) : Prop where
  parting : plan.Parting safe depot owner entry (if plan.attends owner entries then none else found)
    (plan.attends owner entries) scope
  cookies : (standing entries).cookies =
    if plan.attends owner entries then (found.getD ∅).texts else []
  calm : ∀ noted ∈ entries, noted.slot ≠ .transport → ¬noted.Panicked

theorem attends_append (plan : Blueprint (CatalogKey.Config Own Act Ω) Act Ω) (owner : Nat) :
    plan.attends owner (entries ++ [noted]) =
      (plan.attends owner entries || decide (plan.ownerOf? noted.slot = some owner)) := by
  simp [attends]

private theorem Departing.leaving_transport (departing : plan.Departing own safe depot owner entry)
    (leaving : plan.Leaving safe depot owner entry found entries noted.before)
    (placed : noted.slot = .transport)
    (ran : (plan.workflow.perform .signOff noted.invocation).run noted.before =
      (noted.outcome, noted.after)) :
    plan.Leaving safe depot owner entry found (entries ++ [noted]) noted.after := by
  obtain ⟨invocation, state, outcome, after⟩ := noted
  cases invocation <;> cases placed
  rename_i request
  have same : plan.attends owner
      (entries ++ [⟨.transport request, state, outcome, after⟩]) = plan.attends owner entries := by
    rw [attends_append]
    simp [ownerOf?, LogEntry.slot, Invocation.slot]
  have stands : standing (entries ++ [⟨.transport request, state, outcome, after⟩]) =
      standing entries := by
    rw [standing_note]
    cases outcome with
    | error fault => rfl
    | ok yield =>
        have yields : Slot.transport.Yields yield := Workflow.perform_yields ran
        cases yield <;> first
          | rfl
          | cases yields
  refine ⟨?_, ?_, List.forall_mem_append.mpr ⟨leaving.calm, List.forall_mem_singleton.mpr
    fun other => absurd rfl other⟩⟩
  · rw [same]
    have kept := departing.perform_transport request leaving.parting
    rw [ran] at kept
    exact kept
  · rw [same, stands]
    exact leaving.cookies

private theorem Departing.leaving_hook (departing : plan.Departing own safe depot owner entry)
    (leaving : plan.Leaving safe depot owner entry found entries noted.before) {position : Nat}
    (invoked : noted.invocation = .signOff position (standing entries))
    (ran : (plan.workflow.perform .signOff noted.invocation).run noted.before =
      (noted.outcome, noted.after)) :
    plan.Leaving safe depot owner entry found (entries ++ [noted]) noted.after := by
  have slot : plan.ownerOf? noted.slot = plan.ownerAt? .signOff position := by
    rw [LogEntry.slot, invoked]
    rfl
  rw [invoked] at ran
  by_cases owned : plan.ownerAt? .signOff position = some owner
  · obtain ⟨after, performed, parting⟩ :=
      departing.perform_own (standing entries) owned leaving.parting
    rw [performed] at ran
    have ended : noted.outcome = .ok (.request
        (((if plan.attends owner entries then none else found).getD ∅).attach
          (standing entries))) := (congrArg Prod.fst ran).symm
    have left : noted.after = after := (congrArg Prod.snd ran).symm
    have attended : plan.attends owner (entries ++ [noted]) = true := by
      rw [attends_append, slot, decide_eq_true owned, Bool.or_true]
    refine ⟨?_, ?_, List.forall_mem_append.mpr ⟨leaving.calm, List.forall_mem_singleton.mpr
      fun _ => ?_⟩⟩
    · rw [attended, if_pos rfl]
      rw [left]
      exact parting
    · rw [attended, if_pos rfl, standing_note, ended]
      change (((if plan.attends owner entries then none else found).getD ∅).attach
        (standing entries)).cookies = _
      rw [CookieJar.cookies_attach, leaving.cookies]
      cases plan.attends owner entries with
      | false => rfl
      | true => exact List.append_nil _
    · rintro ⟨payload, panicked⟩
      rw [ended] at panicked
      cases panicked
  · obtain ⟨parting, calm, same⟩ :=
      departing.perform_other (standing entries) owned leaving.parting
    rw [ran] at parting calm same
    have attended : plan.attends owner (entries ++ [noted]) = plan.attends owner entries := by
      rw [attends_append, slot, decide_eq_false owned, Bool.or_false]
    refine ⟨?_, ?_, List.forall_mem_append.mpr ⟨leaving.calm, List.forall_mem_singleton.mpr
      fun _ => ?_⟩⟩
    · rw [attended]
      exact parting
    · rw [attended, ← leaving.cookies, standing_note]
      cases ended : noted.outcome with
      | error fault => rfl
      | ok yield => exact same yield ended
    · rintro ⟨payload, panicked⟩
      exact calm payload panicked

theorem Departing.leaving_of_recorded (departing : plan.Departing own safe depot owner entry)
    (recorded : Recorded plan.workflow .signOff first entries last)
    (slots : ∀ noted ∈ entries, (∃ position, noted.slot = .hook .signOff position) ∨
      noted.slot = .transport)
    (parting : plan.Parting safe depot owner entry found false first) :
    plan.Leaving safe depot owner entry found entries last := by
  induction recorded with
  | begin =>
      refine ⟨parting, rfl, ?_⟩
      intro noted member
      cases member
  | @note entries noted recorded survived due ran ih =>
      have leaving := ih fun past member => slots past (List.mem_append_left _ member)
      rcases slots noted (List.mem_append_right _ (List.mem_singleton_self noted)) with
        ⟨position, placed⟩ | placed
      · rw [placed] at due
        have invoked : noted.invocation = .signOff position (standing entries) := by
          rw [← request_outlook]
          exact (Option.some.inj due).symm
        exact departing.leaving_hook leaving invoked ran
      · exact departing.leaving_transport leaving placed ran

private theorem Departing.attends_hooks (departing : plan.Departing own safe depot owner entry)
    (attended : hooks.map LogEntry.slot =
      Workflow.stageSlots .signOff 0 plan.workflow.hooks.signOff.length) :
    plan.attends owner hooks = true := by
  obtain ⟨config, priority, mode, registered⟩ := departing.registered
  have yields : ∀ view, ∃ hook ∈ ((plan.modules CatalogKey.cookie).setup view).1,
      hook.stage = .signOff := by
    intro view
    rw [departing.catalog]
    exact ⟨.signOff Cookie.signOff, by simp [CatalogKey.module, Module.cookie, Module.ofHooks], rfl⟩
  obtain ⟨position, within, owned⟩ := exists_position registered yields
  have counted : (plan.workflow.hooks.stage .signOff).length =
      plan.workflow.hooks.signOff.length := List.length_map _
  have placed : Slot.hook .signOff position ∈ hooks.map LogEntry.slot := by
    rw [attended]
    exact Workflow.mem_stageSlots.mpr ⟨position, rfl, by omega⟩
  obtain ⟨noted, member, same⟩ := List.mem_map.mp placed
  refine List.any_eq_true.mpr ⟨noted, member, decide_eq_true ?_⟩
  rw [same]
  exact owned

private theorem Departing.not_cutShort (departing : plan.Departing own safe depot owner entry)
    (parting : plan.Parting safe depot owner entry found false ready.inner) {payload : Panic} :
    ¬CutShort plan.workflow before ready after hooks payload := by
  intro cut
  have atHooks : ∀ noted ∈ hooks, ∃ position, noted.slot = .hook .signOff position :=
    fun _ member => Workflow.exists_position_of_attended cut.attended member
  have leaving := departing.leaving_of_recorded cut.recorded
    (fun noted member => Or.inl (atHooks noted member)) parting
  obtain ⟨earlier, last, rfl, panicked, _⟩ := cut.ended
  have member : last ∈ earlier ++ [last] := List.mem_append_right _ (List.mem_singleton_self last)
  obtain ⟨position, here⟩ := atHooks last member
  refine leaving.calm last member ?_ ⟨payload, panicked⟩
  rw [here]
  exact Slot.noConfusion

/-! ### Behind a sign-off -/

variable {plain : (id : ι) → Own id → Prop} {config : CookieConfig Ω} {jar : CookieJar}
variable {start : Engine (Scope (CatalogKey.Config Own Act Ω) Act Ω) Act}

/-- Whatever calls follow, no request that a turn sends has a cookie other than those that
the turn begins with, before a response has set one. -/
def Silent (plan : Blueprint (CatalogKey.Config Own Act Ω) Act Ω) (owner : Nat)
    (start : Engine (Scope (CatalogKey.Config Own Act Ω) Act Ω) Act) : Prop :=
  ∀ passages last earlier passage later opening sofar noted rest request,
    History plan.workflow JarAside start passages last →
    passages = earlier ++ passage :: later → passage.visit = .turn opening →
    passage.entries = sofar ++ noted :: rest → noted.invocation = .transport request →
    (∀ past ∈ earlier.flatMap Passage.entries ++ sofar, plan.ownerOf? past.slot = some owner →
      ∀ position response, past.invocation = .response position response →
        ∀ cookie ∈ Cookie.received response, cookie.expired = true) →
    request.cookies = passage.visit.base.cookies

/-- Behind the initial hooks an empty jar stays empty unless a response sets a cookie. -/
theorem change_told {event : CookieEvent} (told : event ∈ plan.told depot owner noted)
    (settled : ¬noted.IsInit)
    (unset : plan.ownerOf? noted.slot = some owner →
      ∀ position response, noted.invocation = .response position response →
        ∀ cookie ∈ Cookie.received response, cookie.expired = true) :
    CookieEvent.change ∅ event = ∅ := by
  unfold Blueprint.told at told
  split at told
  · rename_i owned
    cases invoked : noted.invocation with
    | init position => exact absurd ⟨position, invoked⟩ settled
    | response position response =>
        rw [invoked] at told
        obtain ⟨cookie, received, rfl⟩ := List.mem_map.mp told
        have expired := unset owned position response invoked cookie received
        change CookieJar.apply ∅ cookie = ∅
        rw [CookieJar.apply, if_pos expired]
        rfl
    | signOff position request =>
        rw [invoked] at told
        change event ∈ if noted.succeeded then [CookieEvent.forgotten] else [] at told
        split at told
        · rw [List.mem_singleton.mp told]
          rfl
        · cases told
    | _ =>
        rw [invoked] at told
        cases told
  · cases told

private theorem change_toldAll (settled : ∀ past ∈ entries, ¬past.IsInit)
    (unset : ∀ past ∈ entries, plan.ownerOf? past.slot = some owner →
      ∀ position response, past.invocation = .response position response →
        ∀ cookie ∈ Cookie.received response, cookie.expired = true) :
    (entries.flatMap (plan.told depot owner)).foldl CookieEvent.change ∅ = ∅ := by
  refine List.foldlRecOn (motive := fun jar => jar = ∅) _ _ rfl ?_
  intro jar empty event member
  obtain ⟨past, among, told⟩ := List.mem_flatMap.mp member
  rw [empty]
  exact change_told told (settled past among) (unset past among)

/-- Where the jar is empty and the initial hooks are done, no cookie is sent. -/
theorem JarAlone.silent (alone : plan.JarAlone own plain depot owner config)
    (standing : plan.Standing plain depot owner ∅ start.inner)
    (initialized : start.initialized = true) : plan.Silent owner start := by
  intro passages last earlier passage later opening sofar noted rest request history here turn
    within sent unset
  obtain ⟨behind, happens⟩ := history.split here
  have settled : ∀ past ∈ earlier.flatMap Passage.entries, ¬past.IsInit := by
    intro past member
    obtain ⟨other, among, inEntries⟩ := List.mem_flatMap.mp member
    obtain ⟨before, after, same⟩ := List.append_of_mem among
    obtain ⟨past', happened⟩ := behind.split same
    exact happened.settled (past'.initialized_of_first initialized) past inEntries
  have now : ∀ past ∈ sofar, ¬past.IsInit := by
    intro past member
    refine happens.settled (behind.initialized_of_first initialized) past ?_
    rw [within]
    exact List.mem_append_left _ member
  have empty : (earlier.flatMap (plan.toldIn depot owner)).foldl CookieEvent.change ∅ = ∅ := by
    have whole : earlier.flatMap (plan.toldIn depot owner) =
        (earlier.flatMap Passage.entries).flatMap (plan.told depot owner) :=
      List.flatMap_assoc.symm
    rw [whole]
    exact change_toldAll settled fun past member => unset past (List.mem_append_left _ member)
  have stands := alone.standing_of_later behind standing
  rw [empty] at stands
  rw [alone.cookies_of_transport happens turn within sent stands,
    change_toldAll now fun past member => unset past (List.mem_append_right _ member)]
  exact List.append_nil _

private theorem Standing.emptied (standing : plan.Standing plain depot owner jar scope)
    (gone : scope.common.shared cookieJarKey = none) :
    plan.Standing plain depot owner ∅ scope := by
  obtain ⟨found, shared, rfl⟩ := standing.held.shared
  exact ⟨standing.bounds, ⟨standing.held.fits, none, gone, rfl⟩, standing.bare⟩

/-- Once the initial hooks have succeeded, a sign-off ends with a request that has one
header for every cookie in the jar, in the order of names, and it is this request that is
sent if it has a target. However the sign-off ends, neither a jar nor anything stored of it is
left, and where no other hook ever touches the cookies none is sent until one is set. -/
theorem Departing.departs (departing : plan.Departing own safe depot owner entry)
    (opened : plan.workflow.ensureInit.run before = (.ok (), ready))
    (parting : plan.Parting safe depot owner entry found false ready.inner) :
    ∃ outcome after hooks sent, plan.workflow.signOff.work.run before = (.ok outcome, after) ∧
      BestEffort plan.workflow before ready after hooks sent outcome ∧
      (found.getD ∅).Lists (standing hooks).cookies ∧
      after.inner.common.shared cookieJarKey = none ∧
      depot.text (sightOf owner after.inner) = none ∧
      ∀ plain config, plan.JarAlone own plain depot owner config →
        plan.Standing plain depot owner (found.getD ∅) ready.inner → plan.Silent owner after := by
  rcases Workflow.bestEffort_or_cutShort opened with
    ⟨outcome, after, hooks, sent, ran, effort, _⟩ | ⟨payload, after, hooks, _, cut⟩
  · have atHooks : ∀ noted ∈ hooks, ∃ position, noted.slot = .hook .signOff position :=
      fun _ member => Workflow.exists_position_of_attended effort.attended member
    have attends := departing.attends_hooks effort.attended
    obtain ⟨middle, upTo⟩ := effort.recorded.of_append
    have leaving := departing.leaving_of_recorded upTo
      (fun noted member => Or.inl (atHooks noted member)) parting
    have cookies := leaving.cookies
    rw [attends, if_pos rfl] at cookies
    have left := (departing.leaving_of_recorded effort.recorded (fun noted member =>
      (List.mem_append.mp member).imp (atHooks noted) effort.slot_of_sent) parting).parting
    have attendsAll : plan.attends owner (hooks ++ sent) = true := by
      unfold Blueprint.attends at attends ⊢
      rw [List.any_append, attends, Bool.true_or]
    rw [attendsAll, if_pos rfl] at left
    refine ⟨outcome, after, hooks, sent, ran, effort, ?_, left.jar, left.gone rfl, ?_⟩
    · rw [cookies]
      exact CookieJar.lists_texts _
    · intro plain config alone stands
      have behind := (alone.standing_of_recorded effort.recorded stands).1
      exact alone.silent (behind.emptied left.jar) effort.initialized
  · exact absurd cut (departing.not_cutShort parting)

/-! ### A session that ends offline -/

def farewell : Module Unit Unit Unit :=
  .ofHooks "farewell" ()
    [.signOff fun request => .done (request.withUrl
       ⟨"https", some ⟨"", none, some (.domain "example.com"), none⟩, "/", none, none⟩),
     .signOff fun _ => Proc.throw (.custom "forgotten")]

def farewellConfig : CookieConfig Unit :=
  ⟨["sid"], .own (NameMap.ofList [("cookies", "\x7b\"sid\":\"1\"\x7d")]), "cookies"⟩

/-- One cookie is stored, other hooks of a sign-off come before and behind that of the
cookies, and nothing can be sent. -/
def farewellPlan : Blueprint (CatalogKey.Config (fun _ : Unit => Unit) Unit Unit) Unit Unit where
  modules := CatalogKey.module fun _ => farewell
  settings := ⟨"login", [⟨.added (), (), 10, .append⟩, ⟨.cookie, farewellConfig, 20, .append⟩,
    ⟨.added (), (), 30, .append⟩], .ofSeconds 30⟩
  id := 0
  transport := fun _ => Proc.throw (.custom "offline")
  adapter? := fun _ => none
  outside := ()

def farewellRun := farewellPlan.workflow.ensureInit.run farewellPlan.engine

private theorem farewell_opened : farewellRun = (.ok (), farewellRun.2) := by
  have answer : farewellRun.1 = .ok () := eq_ok_of_isSome (by decide +kernel)
  rw [← answer]

theorem farewell_once (index : Nat)
    (registration : Registration (CatalogKey.Config (fun _ : Unit => Unit) Unit Unit))
    (found : farewellPlan.registrations[index]? = some registration)
    (cookie : registration.key = .cookie) : index = 1 := by
  rcases index with _ | _ | _ | index
  · cases found
    cases cookie
  · rfl
  · cases found
    cases cookie
  · cases found

private theorem farewell_quiet : farewell.PartsQuietly (fun _ => True) .own "cookies" := by
  intro view _ work member found gone
  simp only [farewell, Module.ofHooks, List.mem_cons, List.not_mem_nil, or_false,
    Hook.signOff.injEq] at member
  rcases member with rfl | rfl
  · refine quiet_of_answer (fun _ request => .ok (request.withUrl _)) (fun request view => rfl) ?_
    intro view request built answered
    cases answered
    rfl
  · refine quiet_of_answer (fun _ _ => .error (.custom "forgotten")) (fun request view => rfl) ?_
    intro view request built answered
    cases answered

private theorem farewellPlan_departing :
    farewellPlan.Departing (fun _ => farewell) (fun _ _ => True) .own 1
    "cookies" where
  catalog := rfl
  registered := ⟨farewellConfig, 20, .append, rfl⟩
  once := farewell_once
  within := by
    intro registration member
    obtain ⟨key, config, priority, mode⟩ := registration
    cases key <;> trivial
  others := fun registration member id added => farewell_quiet
  transport := fun request limit outside held => rfl

private theorem farewell_store : ∃ content,
    (sightOf 1 farewellRun.2.inner).config.store = .own content := by
  have told : (match (sightOf 1 farewellRun.2.inner).config.store with
      | .own _ => true
      | .shared _ => false) = true := by decide +kernel
  cases kept : (sightOf 1 farewellRun.2.inner).config.store with
  | own content => exact ⟨content, rfl⟩
  | shared storage =>
      rw [kept] at told
      cases told

private theorem farewell_jar : farewellRun.2.inner.common.shared cookieJarKey =
    Cookie.sharedJar (some (NameMap.ofList [("sid", "1")])) := by
  have told : (farewellRun.2.inner.common.shared cookieJarKey).any (fun
      | ⟨.jar, jar⟩ => decide (jar = NameMap.ofList [("sid", "1")])
      | _ => false) = true := by decide +kernel
  obtain ⟨⟨kind, value⟩, bound, same⟩ := (Option.any_eq_true _ _).mp told
  cases kind with
  | jar =>
      have jar : value = NameMap.ofList [("sid", "1")] := of_decide_eq_true same
      rw [bound, jar]
      rfl
  | _ => cases same

theorem farewell_parting : farewellPlan.Parting (fun _ _ => True) .own 1 "cookies"
    (some (NameMap.ofList [("sid", "1")])) false farewellRun.2.inner where
  bounds := by
    intro index registration placed
    obtain ⟨key, config, priority, mode⟩ := registration
    cases key <;> trivial
  fits := farewell_store
  entry := by decide +kernel
  jar := farewell_jar
  gone := by
    intro impossible
    cases impossible

private theorem farewellPlan_alone :
    farewellPlan.JarAlone (fun _ => farewell) (fun _ _ => True) .own 1
    farewellConfig where
  catalog := rfl
  registered := ⟨20, .append, rfl⟩
  once := farewell_once
  memory := ⟨_, rfl⟩
  within := by
    intro registration member
    have listed : registration ∈ farewellPlan.settings.registrations := mem_settings member
    simp only [farewellPlan, List.mem_cons, List.not_mem_nil, or_false] at listed
    rcases listed with rfl | rfl | rfl <;> trivial
  others := by
    intro registration member id added
    apply Module.sparesCookies_ofHooks
    intro hook member jar
    rcases List.mem_cons.mp member with rfl | inRest
    · exact fun request => Proc.maintains_done _
    · rcases List.mem_singleton.mp inRest with rfl
      exact fun request => Proc.maintains_fail _
  adapters := by
    intro action adapt known
    cases known

private theorem farewell_standing : farewellPlan.Standing (fun _ _ => True) .own 1
    (NameMap.ofList [("sid", "1")]) farewellRun.2.inner where
  bounds := by
    intro index registration placed
    have listed : registration ∈ farewellPlan.settings.registrations :=
      mem_settings (List.mem_of_getElem? placed)
    simp only [farewellPlan, List.mem_cons, List.not_mem_nil, or_false] at listed
    rcases listed with rfl | rfl | rfl <;> exact True.intro
  held := farewell_parting.held
  bare := by
    intro step kept
    have none : farewellRun.2.inner.common.shared lastContinueKey = none := by
      decide +kernel
    rw [none] at kept
    cases kept

/-- The cookie that is loaded goes along with the request that cannot be sent, and is gone. -/
theorem farewell_departs : ∃ outcome after hooks sent,
    farewellPlan.workflow.signOff.work.run farewellPlan.engine = (.ok outcome, after) ∧
      BestEffort farewellPlan.workflow farewellPlan.engine farewellRun.2 after hooks sent outcome ∧
      CookieJar.Lists (NameMap.ofList [("sid", "1")]) (standing hooks).cookies ∧
      after.inner.common.shared cookieJarKey = none ∧
      Depot.own.text (sightOf 1 after.inner) = none ∧ farewellPlan.Silent 1 after := by
  obtain ⟨outcome, after, hooks, sent, ran, effort, lists, jar, text, silent⟩ :=
    farewellPlan_departing.departs farewell_opened farewell_parting
  exact ⟨outcome, after, hooks, sent, ran, effort, lists, jar, text,
    silent _ _ farewellPlan_alone farewell_standing⟩

end Blueprint

end GuidedLogin
