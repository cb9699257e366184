/-
Workflows in which only the cookies touch the jar and the cookie headers. What is invoked
for the cookies tells of some events (`Blueprint.told`), and the jar is left as these
change it; a hook of theirs that builds a request adds a header for every cookie in the
jar to it, and nothing else adds any (`JarAlone.perform`).
-/
import GuidedLogin.Proofs.CookieAlone
import GuidedLogin.Proofs.CookieSparing
import GuidedLogin.Proofs.LastStep

namespace GuidedLogin

variable {ι : Type} {Own : ι → Type} {Act Ω : Type}

namespace Cookie

variable {depot : Depot Ω} {jar : CookieJar} {sight : Sight Act Ω}

/-- What something invoked for the cookies tells of them: what has been loaded, what a
response sets, and that all have been forgotten. -/
def told (depot : Depot Ω) (sight : Sight Act Ω) (succeeded : Bool) :
    Invocation Act → List CookieEvent
  | .init _ => if succeeded then (depot.cookies sight).toOption.toList.map .loaded else []
  | .response _ response => (received response).map .set
  | .signOff _ _ => if succeeded then [.forgotten] else []
  | _ => []

structure Held (depot : Depot Ω) (jar : CookieJar) (sight : Sight Act Ω) : Prop where
  fits : depot.Fits sight.config
  shared : ∃ found, sight.common.shared cookieJarKey = sharedJar found ∧ found.getD ∅ = jar

def Answered (depot : Depot Ω) (jar : CookieJar) (sight : Sight Act Ω) (invocation : Invocation Act)
    (result : Except Fault (Yield Act) × Sight Act Ω) : Prop :=
  Held depot ((told depot sight result.1.isOk invocation).foldl CookieEvent.change jar) result.2 ∧
    ∀ yield, result.1 = .ok yield → invocation.Adds jar.texts yield

namespace Held

theorem withContent (held : Held depot jar sight) (content : NameMap String) :
    Held depot jar (depot.part.set content sight) := by
  obtain ⟨found, shared, same⟩ := held.shared
  refine ⟨depot.fits_set held.fits content, found, ?_, same⟩
  unfold Common.shared
  rw [depot.context_set]
  exact shared

theorem run_changeJar (held : Held depot jar sight) (change : CookieJar → CookieJar) :
    ∃ after, (changeJar change : Proc (Sight Act Ω) Unit).run sight = (.ok (), after) ∧
      Held depot (change jar) after := by
  obtain ⟨found, shared, rfl⟩ := held.shared
  exact ⟨_, run_changeJar_eq shared change, held.fits, some (change (found.getD ∅)),
    shared_set_self sight cookieJarKey .jar _, rfl⟩

theorem run_load_of_ok (held : Held depot jar sight) {stored : CookieJar}
    (readable : depot.cookies sight = .ok stored) :
    ∃ after, (load : Proc (Sight Act Ω) Unit).run sight = (.ok (), after) ∧
      Held depot (jar.insertAll stored.entries) after := by
  unfold Depot.cookies at readable
  rw [run_load_eq held.fits]
  cases text : depot.text sight with
  | none =>
      rw [text] at readable
      cases readable
      exact ⟨sight, rfl, held⟩
  | some text' =>
      rw [text] at readable
      have parsed : Json.parseTexts text' = .ok stored := readable
      dsimp only
      rw [parsed]
      exact held.run_changeJar _

theorem run_load_of_error (held : Held depot jar sight) {fault : Json.ReadError}
    (unreadable : depot.cookies sight = .error fault) :
    (load : Proc (Sight Act Ω) Unit).run sight = (.error (.error (.json fault)), sight) := by
  unfold Depot.cookies at unreadable
  rw [run_load_eq held.fits]
  cases text : depot.text sight with
  | none =>
      rw [text] at unreadable
      cases unreadable
  | some text' =>
      rw [text] at unreadable
      have unparsed : Json.parseTexts text' = .error fault := unreadable
      dsimp only
      rw [unparsed]

theorem run_attach (held : Held depot jar sight) (request : Request) :
    (attach request : Proc (Sight Act Ω) Request).run sight = (.ok (jar.attach request), sight) := by
  obtain ⟨found, shared, rfl⟩ := held.shared
  exact run_attach_eq shared request

theorem run_absorb (held : Held depot jar sight) (response : Response) :
    ∃ after, (absorb response : Proc (Sight Act Ω) (List String)).run sight =
        (.ok ((received response).map SetCookie.name), after) ∧
      Held depot ((received response).foldl CookieJar.apply jar) after := by
  unfold absorb received
  cases response.setCookies.filterMap SetCookie.parse? with
  | nil => exact ⟨sight, rfl, held⟩
  | cons cookie rest =>
      obtain ⟨after, ran, changed⟩ :=
        held.run_changeJar fun jar => (cookie :: rest).foldl CookieJar.apply jar
      refine ⟨after, ?_, changed⟩
      change ((changeJar _).bind fun _ => .done _ : Proc _ _).run sight = _
      rw [Proc.run_bind_done, ran]
      rfl

theorem run_response (held : Held depot jar sight) (response : Response) :
    ∃ after, ((absorb response).bind persist : Proc (Sight Act Ω) Unit).run sight =
        (.ok (), after) ∧
      Held depot ((received response).foldl CookieJar.apply jar) after := by
  obtain ⟨between, absorbed, changed⟩ := held.run_absorb response
  obtain ⟨found, shared, _⟩ := changed.shared
  rw [Proc.run_bind, absorbed]
  refine ⟨_, run_persist_eq changed.fits shared _, ?_⟩
  split
  · exact changed.withContent _
  · exact changed

theorem run_signOff (held : Held depot jar sight) (request : Request) :
    ∃ after, (signOff request : Proc (Sight Act Ω) Request).run sight =
        (.ok (jar.attach request), after) ∧ Held depot ∅ after := by
  obtain ⟨found, shared, rfl⟩ := held.shared
  have emptied : Held depot ∅ (sight.withContext (sight.context.erase cookieJarKey)) :=
    ⟨held.fits, none, shared_erase_self sight cookieJarKey, rfl⟩
  rw [run_signOff_eq shared, run_forget_eq held.fits]
  exact ⟨_, rfl, emptied.withContent _⟩

theorem answer_load (held : Held depot jar sight) (position : Nat) :
    Answered depot jar sight (.init position)
      ((load.bind fun _ => .done .nothing : Proc (Sight Act Ω) (Yield Act)).run sight) := by
  rw [Proc.run_bind_done]
  refine ⟨?_, fun _ _ => trivial⟩
  unfold told
  cases readable : depot.cookies sight with
  | ok stored =>
      obtain ⟨after, ran, filled⟩ := held.run_load_of_ok readable
      rw [ran]
      exact filled
  | error fault =>
      rw [held.run_load_of_error readable]
      exact held

theorem answer_attach (held : Held depot jar sight) {invocation : Invocation Act}
    {request : Request} (silent : told depot sight true invocation = [])
    (adds : invocation.Adds jar.texts (.request (jar.attach request))) :
    Answered depot jar sight invocation
      (((attach request).bind fun built => .done (.request built) :
        Proc (Sight Act Ω) (Yield Act)).run sight) := by
  rw [Proc.run_bind_done, held.run_attach]
  refine ⟨?_, ?_⟩
  · change Held depot ((told depot sight true invocation).foldl _ jar) sight
    rw [silent]
    exact held
  · intro yield same
    cases same
    exact adds

theorem answer_response (held : Held depot jar sight) (position : Nat) (response : Response) :
    Answered depot jar sight (.response position response)
      ((((absorb response).bind persist).bind fun _ => .done .nothing :
        Proc (Sight Act Ω) (Yield Act)).run sight) := by
  obtain ⟨after, ran, changed⟩ := held.run_response response
  rw [Proc.run_bind_done, ran]
  refine ⟨?_, fun _ _ => trivial⟩
  unfold told
  rw [List.foldl_map]
  exact changed

theorem answer_signOff (held : Held depot jar sight) (position : Nat) (request : Request) :
    Answered depot jar sight (.signOff position request)
      (((signOff request).bind fun built => .done (.request built) :
        Proc (Sight Act Ω) (Yield Act)).run sight) := by
  obtain ⟨after, ran, emptied⟩ := held.run_signOff request
  rw [Proc.run_bind_done, ran]
  exact ⟨emptied, fun _ _ => trivial⟩

theorem answer (held : Held depot jar sight) {view : Sight Act Ω}
    {hook : Hook (Sight Act Ω) Act} (member : hook ∈ (Module.cookie.setup view).1)
    {invocation : Invocation Act} {position : Nat}
    (placed : invocation.slot = .hook hook.stage position) :
    Answered depot jar sight invocation ((hook.answer invocation).run sight) := by
  simp only [Module.cookie, Module.ofHooks, List.mem_cons, List.not_mem_nil, or_false] at member
  rcases member with rfl | rfl | rfl | rfl | rfl
  · cases invocation <;> cases placed
    exact held.answer_load position
  · cases invocation <;> cases placed
    exact held.answer_attach rfl (jar.cookies_attach _)
  · cases invocation <;> cases placed
    exact held.answer_attach rfl (jar.cookies_attach _)
  · cases invocation <;> cases placed
    exact held.answer_response position _
  · cases invocation <;> cases placed
    exact held.answer_signOff position _

end Held

end Cookie

variable [DecidableEq ι]

namespace Blueprint

/-- A workflow with one registration of the cookies, at a position in the execution order,
that has its memory somewhere, and nothing else that touches the jar or cookie headers. -/
structure JarAlone (plan : Blueprint (CatalogKey.Config Own Act Ω) Act Ω)
    (own : (id : ι) → Module (Own id) Act Ω) (safe : (id : ι) → Own id → Prop)
    (depot : Depot Ω) (owner : Nat) (config : CookieConfig Ω) : Prop where
  catalog : plan.modules = CatalogKey.module own
  registered : ∃ priority mode,
    plan.registrations[owner]? = some ⟨.cookie, config, priority, mode⟩
  once : ∀ (index : Nat) (registration : Registration (CatalogKey.Config Own Act Ω)),
    plan.registrations[index]? = some registration → registration.key = .cookie → index = owner
  memory : depot.Fits config
  within : ∀ registration ∈ plan.registrations,
    CatalogKey.plainAt safe registration.key registration.config
  others : ∀ registration ∈ plan.registrations, ∀ id, registration.key = .added id →
    (own id).SparesCookies (safe id)
  adapters : ∀ action adapt, plan.adapter? action = some adapt → ∀ request jar,
    (adapt request).Ensures (Common.Plain jar) fun built => built.cookies = request.cookies

variable {plan : Blueprint (CatalogKey.Config Own Act Ω) Act Ω}
variable {own : (id : ι) → Module (Own id) Act Ω} {safe : (id : ι) → Own id → Prop}
variable {depot : Depot Ω} {owner : Nat} {config : CookieConfig Ω} {visit : Visit Act}
variable {scope : Scope (CatalogKey.Config Own Act Ω) Act Ω} {jar : CookieJar}

def ownerOf? (plan : Blueprint (CatalogKey.Config Own Act Ω) Act Ω) : Slot → Option Nat
  | .hook stage position => plan.ownerAt? stage position
  | _ => none

def told (plan : Blueprint (CatalogKey.Config Own Act Ω) Act Ω) (depot : Depot Ω) (owner : Nat)
    (entry : LogEntry (Scope (CatalogKey.Config Own Act Ω) Act Ω) Act) : List CookieEvent :=
  if plan.ownerOf? entry.slot = some owner then
    Cookie.told depot (sightOf owner entry.before) entry.succeeded entry.invocation
  else []

/-- The cookie headers that something invoked for a registration of the cookies adds. -/
def added (plan : Blueprint (CatalogKey.Config Own Act Ω) Act Ω) (owner : Nat) (jar : CookieJar)
    (slot : Slot) : List String :=
  if plan.ownerOf? slot = some owner then jar.texts else []

structure Standing (plan : Blueprint (CatalogKey.Config Own Act Ω) Act Ω)
    (safe : (id : ι) → Own id → Prop) (depot : Depot Ω) (owner : Nat) (jar : CookieJar)
    (scope : Scope (CatalogKey.Config Own Act Ω) Act Ω) : Prop where
  bounds : ∀ (index : Nat) (registration : Registration (CatalogKey.Config Own Act Ω)),
    plan.registrations[index]? = some registration →
    CatalogKey.plainAt safe registration.key (scope.configs registration.key index)
  held : Cookie.Held depot jar (sightOf owner scope)
  bare : ∀ step : ContinueNode Act, scope.common.shared lastContinueKey = some ⟨.step, step⟩ →
    step.template.cookies = []

theorem Standing.plain (standing : plan.Standing safe depot owner jar scope) :
    ∃ found, found.getD ∅ = jar ∧ scope.common.Plain (Cookie.sharedJar found) := by
  obtain ⟨found, shared, same⟩ := standing.held.shared
  exact ⟨found, same, shared, standing.bare⟩

theorem Standing.of_plain {after : Scope (CatalogKey.Config Own Act Ω) Act Ω}
    (standing : plan.Standing safe depot owner jar scope)
    (bounds : ∀ (index : Nat) (registration : Registration (CatalogKey.Config Own Act Ω)),
      plan.registrations[index]? = some registration →
      CatalogKey.plainAt safe registration.key (after.configs registration.key index))
    (config : after.configs .cookie owner = scope.configs .cookie owner)
    {found : Option CookieJar} (same : found.getD ∅ = jar)
    (plain : after.common.Plain (Cookie.sharedJar found)) :
    plan.Standing safe depot owner jar after := by
  refine ⟨bounds, ⟨?_, found, plain.jar, same⟩, plain.bare⟩
  change depot.Fits (after.configs .cookie owner)
  rw [config]
  exact standing.held.fits

theorem Standing.set {index : Nat} {registration : Registration (CatalogKey.Config Own Act Ω)}
    (standing : plan.Standing safe depot owner jar scope)
    (registered : plan.registrations[index]? = some registration) (apart : index ≠ owner)
    {view : View (CatalogKey.Config Own Act Ω registration.key) Act Ω} {found : Option CookieJar}
    (same : found.getD ∅ = jar)
    (plain : view.Plain (CatalogKey.plainAt safe registration.key) (Cookie.sharedJar found)) :
    plan.Standing safe depot owner jar ((Scope.viewPart registration.key index).set view scope) := by
  refine standing.of_plain ?_ ?_ same plain.2
  · intro other another placed
    change CatalogKey.plainAt safe another.key
      (Scope.setConfig scope.configs registration.key index view.config another.key other)
    by_cases here : other = index
    · subst here
      rw [registered] at placed
      cases placed
      rw [Scope.setConfig_self]
      exact plain.1
    · rw [Scope.setConfig_of_ne _ _ _ _ here]
      exact standing.bounds other another placed
  · exact Scope.setConfig_of_ne scope.configs _ _ _ (Ne.symm apart)

/-! ### What is invoked -/

omit [DecidableEq ι] in
private theorem JarAlone.notCookie (alone : plan.JarAlone own safe depot owner config) {index : Nat}
    {registration : Registration (CatalogKey.Config Own Act Ω)}
    (registered : plan.registrations[index]? = some registration) (apart : index ≠ owner) :
    registration.key ≠ .cookie :=
  fun cookie => apart (alone.once index registration registered cookie)

omit [DecidableEq ι] in
theorem JarAlone.spares (alone : plan.JarAlone own safe depot owner config) {index : Nat}
    {registration : Registration (CatalogKey.Config Own Act Ω)}
    (registered : plan.registrations[index]? = some registration) (apart : index ≠ owner) :
    (plan.modules registration.key).SparesCookies (CatalogKey.plainAt safe registration.key) := by
  rw [alone.catalog]
  exact CatalogKey.sparesCookies_module (alone.notCookie registered apart)
    (alone.others registration (List.mem_of_getElem? registered))

/-- What is invoked for others leaves the jar and cookie headers alone. -/
theorem JarAlone.perform_other (alone : plan.JarAlone own safe depot owner config)
    (visit : Visit Act) {invocation : Invocation Act} (bare : invocation.Bare)
    (other : plan.ownerOf? invocation.slot ≠ some owner)
    (standing : plan.Standing safe depot owner jar scope) :
    plan.Standing safe depot owner jar ((plan.workflow.perform visit invocation).run scope).2 ∧
      ∀ yield, ((plan.workflow.perform visit invocation).run scope).1 = .ok yield →
        invocation.Adds [] yield := by
  obtain ⟨found, same, plain⟩ := standing.plain
  have idle : ∀ yield : Yield Act, (.ok .nothing : Except Fault (Yield Act)) = .ok yield →
      invocation.Adds [] yield := by
    intro yield nothing
    cases nothing
    exact invocation.adds_nothing
  cases placed : invocation.slot with
  | hook stage position =>
      rcases run_perform_hook visit placed scope with
        ⟨_, ran⟩ | ⟨index, registration, hook, owned, origin, ran⟩
      · rw [ran]
        exact ⟨standing, idle⟩
      · have apart : index ≠ owner := by
          rintro rfl
          rw [placed] at other
          exact other owned
        obtain ⟨view, configured, yielded⟩ := origin.yielded
        have safely := alone.within registration (List.mem_of_getElem? origin.registered)
        have spares := (alone.spares origin.registered apart).hooks view (configured ▸ safely)
          hook yielded (Cookie.sharedJar found)
        obtain ⟨left, adds⟩ := spares.answer bare
          ((Scope.viewPart registration.key index).get scope)
          ⟨standing.bounds index registration origin.registered, plain⟩
        rw [ran]
        exact ⟨standing.set origin.registered apart same left, adds⟩
  | adapter position =>
      cases invocation with
      | adapter _ request =>
          rcases run_perform_adapter plan visit _ request scope with
            ran | ⟨action, adapt, known, ran⟩
          · rw [ran]
            exact ⟨standing, idle⟩
          · obtain ⟨left, adds⟩ := alone.adapters action adapt known request
              (Cookie.sharedJar found) scope.common plain
            rw [ran]
            refine ⟨standing.of_plain standing.bounds rfl same left, ?_⟩
            intro yield built
            cases ended : ((adapt request).run scope.common).1 with
            | error fault =>
                rw [ended] at built
                cases built
            | ok adapted =>
                rw [ended] at built
                cases built
                exact (adds adapted ended).trans (List.append_nil _).symm
      | _ => cases placed
  | transport =>
      cases invocation with
      | transport request =>
          rw [run_perform_transport]
          exact ⟨standing.of_plain standing.bounds rfl same ⟨plain.jar, plain.bare⟩,
            fun _ _ => trivial⟩
      | _ => cases placed

/-- What is invoked for the cookies leaves the jar as what it tells changes it. -/
theorem JarAlone.perform_own (alone : plan.JarAlone own safe depot owner config)
    (visit : Visit Act) {invocation : Invocation Act} {stage : Stage} {position : Nat}
    (placed : invocation.slot = .hook stage position)
    (owned : plan.ownerAt? stage position = some owner)
    (standing : plan.Standing safe depot owner jar scope) :
    plan.Standing safe depot owner
        ((Cookie.told depot (sightOf owner scope)
          ((plan.workflow.perform visit invocation).run scope).1.isOk invocation).foldl
            CookieEvent.change jar)
        ((plan.workflow.perform visit invocation).run scope).2 ∧
      ∀ yield, ((plan.workflow.perform visit invocation).run scope).1 = .ok yield →
        invocation.Adds jar.texts yield := by
  obtain ⟨priority, mode, registered⟩ := alone.registered
  obtain ⟨view, hook, member, rfl, ran⟩ :=
    exists_cookieHook alone.catalog registered visit invocation placed owned scope
  obtain ⟨left, adds⟩ := standing.held.answer member placed
  have spares := (spares_cookie lastContinueKey_ne).hooks view trivial hook member
    (scope.common.shared lastContinueKey)
  have remembered := (spares.answer invocation (sightOf owner scope) ⟨trivial, rfl⟩).2
  rw [ran]
  refine ⟨⟨?_, ?_, ?_⟩, adds⟩
  · intro index registration found
    change CatalogKey.plainAt safe registration.key
      (Scope.setConfig scope.configs CatalogKey.cookie owner _ registration.key index)
    by_cases here : index = owner
    · subst here
      rw [registered] at found
      cases found
      trivial
    · rw [Scope.setConfig_of_ne _ _ _ _ here]
      exact standing.bounds index registration found
  · change Cookie.Held depot _ ((cookiePart owner).get ((cookiePart owner).set _ scope))
    rw [(Scope.viewPart_lawful CatalogKey.cookie owner).get_set]
    exact left
  · intro step kept
    exact standing.bare step (remembered.symm.trans kept)

/-- Whatever is invoked leaves the jar as what it tells changes it, and only the cookies
add headers to a request, one for each in the jar. -/
theorem JarAlone.standing_of_ran (alone : plan.JarAlone own safe depot owner config)
    {entry : LogEntry (Scope (CatalogKey.Config Own Act Ω) Act Ω) Act}
    (ran : (plan.workflow.perform visit entry.invocation).run entry.before =
      (entry.outcome, entry.after))
    (bare : entry.invocation.Bare) (standing : plan.Standing safe depot owner jar entry.before) :
    plan.Standing safe depot owner ((plan.told depot owner entry).foldl CookieEvent.change jar)
        entry.after ∧
      ∀ yield, entry.outcome = .ok yield →
        entry.invocation.Adds (plan.added owner jar entry.slot) yield := by
  unfold told added
  by_cases owned : plan.ownerOf? entry.slot = some owner
  · rw [if_pos owned, if_pos owned]
    cases placed : entry.slot with
    | hook stage position =>
        rw [placed] at owned
        have performed := alone.perform_own visit placed owned standing
        rw [ran] at performed
        exact performed
    | adapter position =>
        rw [placed] at owned
        cases owned
    | transport =>
        rw [placed] at owned
        cases owned
  · rw [if_neg owned, if_neg owned]
    have performed := alone.perform_other visit bare owned standing
    rw [ran] at performed
    exact performed

theorem JarAlone.standing_built (alone : plan.JarAlone own safe depot owner config) :
    plan.Standing safe depot owner ∅ plan.engine.inner := by
  refine installFrom_maintains plan.modules 0 plan.registrations ?_ _ ?_
  · intro index registration scope registered standing
    rw [Nat.zero_add]
    by_cases here : index = owner
    · subst here
      obtain ⟨priority, mode, cookies⟩ := alone.registered
      rw [cookies] at registered
      cases registered
      rw [alone.catalog]
      change plan.Standing safe depot index ∅
        ((cookiePart index).set ((cookiePart index).get scope) scope)
      rw [(Scope.viewPart_lawful CatalogKey.cookie index).set_get]
      exact standing
    · obtain ⟨found, same, plain⟩ := standing.plain
      exact standing.set registered here same ((alone.spares registered here).setup _ _
        ⟨standing.bounds index registration registered, plain⟩)
  · obtain ⟨priority, mode, registered⟩ := alone.registered
    refine ⟨?_, ⟨?_, none, rfl, rfl⟩, ?_⟩
    · intro index registration placed
      change CatalogKey.plainAt safe registration.key
        (Workflow.configsOf plan.modules plan.registrations registration.key index)
      rw [configsOf_registered placed]
      exact alone.within registration (List.mem_of_getElem? placed)
    · have configured := configsOf_registered registered
      change depot.Fits
        (Workflow.configsOf plan.modules plan.registrations CatalogKey.cookie owner)
      rw [configured]
      exact alone.memory
    · intro step kept
      cases kept

end Blueprint

end GuidedLogin
