/-
Workflows in which one registration of the cookies alone touches the jar and what is
stored of it. What is invoked for others leaves both (`perform_other`), and the hooks of
the cookies do what they do by themselves (`perform_load`, `perform_mirrored`).
-/
import GuidedLogin.Proofs.Depot
import GuidedLogin.Proofs.Undisturbed

namespace GuidedLogin

variable {ι : Type} {Own : ι → Type} {Act Ω : Type}

namespace Depot

/-- What others could change of the cookies: the jar, and what is stored outside. -/
def watch (depot : Depot Ω) (entry : String) (common : Common Act Ω) :
    Option (Valued Act) × Option String :=
  (common.shared cookieJarKey, depot.textOutside entry common.outside)

def Spared (depot : Depot Ω) (entry : String) (config : JsonTransformConfig Act Ω) : Prop :=
  ∀ body outside, depot.textOutside entry (config.stepActions body outside).2 =
    depot.textOutside entry outside

private theorem textOutside_stepNode {depot : Depot Ω} {entry : String}
    {config : JsonTransformConfig Act Ω} (spared : depot.Spared entry config) {response : Response}
    {body : JsonObject} {outside : Ω} {made : Node Act × Ω}
    (stepped : config.stepNode response body outside = .ok made) :
    depot.textOutside entry made.2 = depot.textOutside entry outside := by
  unfold JsonTransformConfig.stepNode at stepped
  cases built : config.template response body with
  | error cause =>
      rw [built] at stepped
      cases stepped
  | ok template =>
      rw [built] at stepped
      cases stepped
      exact spared body outside

private theorem textOutside_transform {depot : Depot Ω} {entry : String}
    {config : JsonTransformConfig Act Ω} (spared : depot.Spared entry config) {response : Response}
    {outside : Ω} {made : Option (Node Act) × Ω}
    (transformed : config.transform response outside = .ok made) :
    depot.textOutside entry made.2 = depot.textOutside entry outside := by
  unfold JsonTransformConfig.transform at transformed
  dsimp only at transformed
  split at transformed
  · cases transformed
    rfl
  split at transformed
  · cases transformed
    rfl
  split at transformed
  · cases transformed
    rfl
  split at transformed
  · cases transformed
    rfl
  · cases stepped : config.stepNode response _ outside with
    | error cause =>
        rw [stepped] at transformed
        cases transformed
    | ok result =>
        rw [stepped] at transformed
        cases transformed
        exact textOutside_stepNode spared stepped

private theorem spares_jsonTransform (depot : Depot Ω) (entry : String) :
    (Module.jsonTransform : Module (JsonTransformConfig Act Ω) Act Ω).Spares
      (depot.Spared entry) (depot.watch entry) := by
  have apart : cookieJarKey ≠ lastContinueKey := by decide
  have forgetting : ∀ value, (JsonTransform.forget : Proc (JsonTransform.Sight Act Ω) Unit).Maintains
      (View.Shows (depot.Spared entry) (depot.watch entry) value) := by
    intro value
    apply Proc.maintains_modify
    rintro view ⟨spared, rfl⟩
    exact ⟨spared, Prod.ext (shared_erase_of_ne apart) rfl⟩
  apply Module.spares_ofHooks
  intro hook member value
  simp only [List.mem_cons, List.not_mem_nil, or_false] at member
  rcases member with rfl | rfl | rfl | rfl
  · exact fun request => Proc.maintains_bind (forgetting value) fun _ => Proc.maintains_done _
  · intro response
    apply Proc.maintains_tryStep
    rintro view ⟨spared, rfl⟩ made changed
    cases transformed : view.config.transform response view.common.outside with
    | error cause =>
        rw [transformed] at changed
        cases changed
    | ok found =>
        rw [transformed] at changed
        cases changed
        exact ⟨spared, Prod.ext rfl (textOutside_transform spared transformed)⟩
  · intro node
    cases node with
    | continuation step =>
        refine Proc.maintains_bind (Proc.maintains_modify ?_) fun _ => Proc.maintains_done _
        rintro view ⟨spared, rfl⟩
        exact ⟨spared, Prod.ext (shared_set_of_ne _ _ apart) rfl⟩
    | success success => exact Proc.maintains_done _
    | failure cause => exact Proc.maintains_done _
    | error error =>
        change Proc.Maintains _ (if error.retry.isSome then _ else _)
        split
        · exact Proc.maintains_done _
        · refine Proc.maintains_bind Proc.maintains_state fun view => ?_
          refine Proc.maintains_bind (Proc.maintains_ofExcept _) fun found => ?_
          cases found <;> exact Proc.maintains_done _
  · exact fun success => Proc.maintains_bind (forgetting value) fun _ => Proc.maintains_done _

end Depot

variable [DecidableEq ι]

namespace Blueprint

/-- A workflow with one registration of the cookies, at a position in the execution order,
that has its memory somewhere, and nothing else that touches the jar or what is stored. -/
structure CookieAlone (plan : Blueprint (CatalogKey.Config Own Act Ω) Act Ω)
    (own : (id : ι) → Module (Own id) Act Ω) (safe : (id : ι) → Own id → Prop)
    (depot : Depot Ω) (owner : Nat) (config : CookieConfig Ω) : Prop where
  catalog : plan.modules = CatalogKey.module own
  registered : ∃ priority mode,
    plan.registrations[owner]? = some ⟨.cookie, config, priority, mode⟩
  once : ∀ (index : Nat) (registration : Registration (CatalogKey.Config Own Act Ω)),
    plan.registrations[index]? = some registration → registration.key = .cookie → index = owner
  memory : depot.Fits config
  within : ∀ registration ∈ plan.registrations, CatalogKey.safeAt safe (fun _ => True)
    (depot.Spared config.storageKey) registration.key registration.config
  others : ∀ registration ∈ plan.registrations, ∀ id, registration.key = .added id →
    (own id).Spares (safe id) (depot.watch config.storageKey)
  adapters : ∀ action adapt, plan.adapter? action = some adapt → ∀ request value,
    (adapt request).Maintains fun common => depot.watch config.storageKey common = value
  transport : ∀ request limit value, (Proc.within limit (plan.transport request)).Maintains
    fun outside => depot.textOutside config.storageKey outside = value

variable {plan : Blueprint (CatalogKey.Config Own Act Ω) Act Ω}
variable {own : (id : ι) → Module (Own id) Act Ω} {safe : (id : ι) → Own id → Prop}
variable {depot : Depot Ω} {owner : Nat} {config : CookieConfig Ω} {visit : Visit Act}
variable {scope : Scope (CatalogKey.Config Own Act Ω) Act Ω}

abbrev cookiePart (owner : Nat) :
    Part (Scope (CatalogKey.Config Own Act Ω) Act Ω) (Cookie.Sight Act Ω) :=
  Scope.viewPart (CatalogKey.cookie : CatalogKey ι) owner

def sightOf (owner : Nat) (scope : Scope (CatalogKey.Config Own Act Ω) Act Ω) :
    Cookie.Sight Act Ω :=
  (cookiePart owner).get scope

structure Holding (plan : Blueprint (CatalogKey.Config Own Act Ω) Act Ω)
    (safe : (id : ι) → Own id → Prop) (depot : Depot Ω) (owner : Nat) (entry : String)
    (holds : Cookie.Sight Act Ω → Prop) (scope : Scope (CatalogKey.Config Own Act Ω) Act Ω) :
    Prop where
  bounds : ∀ (index : Nat) (registration : Registration (CatalogKey.Config Own Act Ω)),
    plan.registrations[index]? = some registration →
    CatalogKey.safeAt safe (fun _ => True) (depot.Spared entry) registration.key
      (scope.configs registration.key index)
  seen : holds (sightOf owner scope)

theorem Holding.set (alone : plan.CookieAlone own safe depot owner config)
    {entry : String} {holds next : Cookie.Sight Act Ω → Prop}
    (holding : plan.Holding safe depot owner entry holds scope) {sight : Cookie.Sight Act Ω}
    (left : next sight) :
    plan.Holding safe depot owner entry next ((cookiePart owner).set sight scope) := by
  constructor
  · intro index registration found
    change CatalogKey.safeAt safe _ _ registration.key
      (Scope.setConfig scope.configs CatalogKey.cookie owner sight.config registration.key index)
    by_cases here : index = owner
    · obtain ⟨priority, mode, registered⟩ := alone.registered
      subst here
      rw [registered] at found
      cases found
      trivial
    · rw [Scope.setConfig_of_ne _ _ _ _ here]
      exact holding.bounds index registration found
  · change next ((cookiePart owner).get ((cookiePart owner).set sight scope))
    rw [(Scope.viewPart_lawful CatalogKey.cookie owner).get_set]
    exact left

omit [DecidableEq ι] in
theorem CookieAlone.undisturbed (alone : plan.CookieAlone own safe depot owner config)
    (current : CookieConfig Ω) :
    plan.Undisturbed (· = .cookie)
      (CatalogKey.safeAt safe (· = current) (depot.Spared config.storageKey))
      (depot.watch config.storageKey) where
  registered := by
    intro registration member other
    exact CatalogKey.safeAt_rebound (alone.within registration member) fun _ same _ =>
      absurd same other
  modules := by
    intro registration member other
    have others := alone.others registration member
    rw [alone.catalog]
    obtain ⟨key, settings, priority, mode⟩ := registration
    cases key with
    | endpoint => exact spares_endpoint _ _
    | customHeader => exact spares_customHeader _ _
    | cookie => exact absurd rfl other
    | jsonTransform => exact depot.spares_jsonTransform config.storageKey
    | added id => exact others id rfl
  setups := by
    intro registration member cookie view value shown
    rw [alone.catalog]
    obtain ⟨key, settings, priority, mode⟩ := registration
    cases cookie
    exact shown
  adapters := alone.adapters
  transport := by
    intro request limit context value outside shown
    have jar : NameMap.find? context cookieJarKey = value.1 := congrArg Prod.fst shown
    have text : depot.textOutside config.storageKey outside = value.2 := congrArg Prod.snd shown
    exact Prod.ext jar (alone.transport request limit value.2 outside text)

theorem CookieAlone.shows (alone : plan.CookieAlone own safe depot owner config)
    {holds : Cookie.Sight Act Ω → Prop}
    (holding : plan.Holding safe depot owner config.storageKey holds scope) :
    plan.Shows (CatalogKey.safeAt safe (· = (sightOf owner scope).config)
        (depot.Spared config.storageKey)) (depot.watch config.storageKey)
      (depot.watch config.storageKey scope.common) scope := by
  refine ⟨?_, rfl⟩
  intro index registration found
  apply CatalogKey.safeAt_rebound (holding.bounds index registration found)
  have once := alone.once index registration found
  obtain ⟨key, settings, priority, mode⟩ := registration
  intro current same here
  cases same
  cases once rfl
  exact (eq_of_heq here).symm

variable {names : List String} {relation : CookieJar → CookieJar → Prop}

theorem CookieAlone.related_of_shows (alone : plan.CookieAlone own safe depot owner config)
    {after : Scope (CatalogKey.Config Own Act Ω) Act Ω}
    (related : Cookie.Related depot names config.storageKey relation (sightOf owner scope))
    (shown : plan.Shows (CatalogKey.safeAt safe (· = (sightOf owner scope).config)
        (depot.Spared config.storageKey)) (depot.watch config.storageKey)
      (depot.watch config.storageKey scope.common) after) :
    plan.Holding safe depot owner config.storageKey
      (Cookie.Related depot names config.storageKey relation) after := by
  obtain ⟨priority, mode, registered⟩ := alone.registered
  obtain ⟨jar, stored, kept, holds⟩ := related
  have same : (sightOf owner after).config = (sightOf owner scope).config :=
    shown.1 owner ⟨.cookie, config, priority, mode⟩ registered
  have outside := congrArg Prod.snd shown.2
  refine ⟨?_, jar, stored, ⟨?_, ?_, ?_, ?_, ?_⟩, holds⟩
  · intro index registration found
    exact CatalogKey.safeAt_rebound (shown.1 index registration found) fun _ _ _ => trivial
  · rw [same]
    exact kept.fits
  · rw [same]
    exact kept.names
  · rw [same]
    exact kept.entry
  · exact (congrArg Prod.fst shown.2).trans kept.jar
  · refine (Depot.cookies_congr same ?_).trans kept.stored
    rw [kept.entry]
    exact outside

theorem CookieAlone.perform_other (alone : plan.CookieAlone own safe depot owner config)
    {invocation : Invocation Act}
    (other : ∀ stage position, invocation.slot = .hook stage position →
      plan.ownerAt? stage position ≠ some owner)
    (holding : plan.Holding safe depot owner config.storageKey
      (Cookie.Related depot names config.storageKey relation) scope) :
    plan.Holding safe depot owner config.storageKey
      (Cookie.Related depot names config.storageKey relation)
      ((plan.workflow.perform visit invocation).run scope).2 := by
  refine alone.related_of_shows holding.seen
    ((alone.undisturbed (sightOf owner scope).config).perform ?_ (alone.shows holding))
  intro stage position found key placed owned known cookie
  obtain ⟨registration, registered, same⟩ := Option.map_eq_some_iff.mp known
  have here := alone.once found registration registered (same.trans cookie)
  exact other stage position placed (here ▸ owned)

/-- What is invoked for a registration of the cookies is a hook of theirs, at work on what
that registration sees. -/
theorem exists_cookieHook (catalog : plan.modules = CatalogKey.module own) {priority : Int}
    {mode : OverrideMode}
    (registered : plan.registrations[owner]? = some ⟨.cookie, config, priority, mode⟩)
    (visit : Visit Act) (invocation : Invocation Act) {stage : Stage} {position : Nat}
    (placed : invocation.slot = .hook stage position)
    (owned : plan.ownerAt? stage position = some owner)
    (scope : Scope (CatalogKey.Config Own Act Ω) Act Ω) :
    ∃ (view : Cookie.Sight Act Ω) (hook : Hook (Cookie.Sight Act Ω) Act),
      hook ∈ (Module.cookie.setup view).1 ∧ hook.stage = stage ∧
        (plan.workflow.perform visit invocation).run scope =
          (((hook.answer invocation).run (sightOf owner scope)).1,
            (cookiePart owner).set ((hook.answer invocation).run (sightOf owner scope)).2
              scope) := by
  rcases run_perform_hook visit placed scope with
    ⟨nobody, _⟩ | ⟨found, registration, hook, foundOwner, origin, ran⟩
  · rw [nobody] at owned
    cases owned
  · rw [owned] at foundOwner
    cases foundOwner
    have same := registered.symm.trans origin.registered
    cases same
    obtain ⟨view, _, yielded⟩ := origin.yielded
    rw [catalog] at yielded
    exact ⟨view, hook, yielded, origin.staged, ran⟩

/-- Behind the initial hooks everything invoked keeps the jar and its image in step. -/
theorem CookieAlone.perform_mirrored (alone : plan.CookieAlone own safe depot owner config)
    {invocation : Invocation Act}
    (later : ∀ position, invocation.slot ≠ .hook .init position)
    (holding : plan.Holding safe depot owner config.storageKey
      (Cookie.Mirrored depot names config.storageKey) scope) :
    plan.Holding safe depot owner config.storageKey
      (Cookie.Mirrored depot names config.storageKey)
      ((plan.workflow.perform visit invocation).run scope).2 := by
  by_cases mine : ∃ stage position, invocation.slot = .hook stage position ∧
      plan.ownerAt? stage position = some owner
  · obtain ⟨stage, position, placed, owned⟩ := mine
    obtain ⟨priority, mode, registered⟩ := alone.registered
    obtain ⟨view, hook, member, staged, ran⟩ :=
      exists_cookieHook alone.catalog registered visit invocation placed owned scope
    have notInit : hook.stage ≠ .init := by
      intro initial
      rw [staged] at initial
      subst initial
      exact later position placed
    have maintains : hook.Maintains (Cookie.Mirrored depot names config.storageKey) :=
      Cookie.maintains_mirrored member notInit
    rw [ran]
    exact holding.set alone (maintains.answer invocation _ holding.seen)
  · refine alone.perform_other ?_ holding
    intro stage position placed owned
    exact mine ⟨stage, position, placed, owned⟩

/-- The initial hook of the cookies puts all that is stored into the jar. -/
theorem CookieAlone.perform_load (alone : plan.CookieAlone own safe depot owner config)
    {position : Nat} (owned : plan.ownerAt? .init position = some owner)
    (holding : plan.Holding safe depot owner config.storageKey
      (Cookie.Related depot names config.storageKey relation) scope)
    {loaded : CookieJar → CookieJar → Prop}
    (filled : ∀ jar stored, relation jar stored → loaded (jar.insertAll stored.entries) stored) :
    plan.Holding safe depot owner config.storageKey
      (Cookie.Related depot names config.storageKey loaded)
      ((plan.workflow.perform visit (.init position)).run scope).2 := by
  obtain ⟨priority, mode, registered⟩ := alone.registered
  obtain ⟨view, hook, member, staged, ran⟩ :=
    exists_cookieHook alone.catalog registered visit (.init position) rfl owned scope
  have loads : hook = .init Cookie.load := by
    simp only [Module.cookie, Module.ofHooks, List.mem_cons, List.not_mem_nil, or_false] at member
    rcases member with rfl | rfl | rfl | rfl | rfl <;> first | rfl | cases staged
  subst loads
  obtain ⟨jar, stored, before, holds⟩ := holding.seen
  obtain ⟨after, next, ended, kept, same⟩ := Cookie.run_load before
  have answered : ((Hook.answer (.init Cookie.load) (.init position) :
      Proc (Cookie.Sight Act Ω) (Yield Act)).run (sightOf owner scope)).2 = after := by
    change ((Cookie.load.bind fun _ => .done Yield.nothing : Proc _ (Yield Act)).run _).2 = after
    rw [Proc.run_bind_done, ended]
  rw [ran, answered]
  refine holding.set alone ⟨next, stored, kept, ?_⟩
  rw [same]
  exact filled _ _ holds

end Blueprint

end GuidedLogin
