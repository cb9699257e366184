/-
Work that spares cookies. Besides the jar, a module can have a say in the cookie headers
of a request: it can add some where a request is built, or through the request that a step
is submitted with. One that does neither, and leaves the jar alone, spares cookies
(`Module.SparesCookies`). The stock modules do, but for the cookies themselves, as long as
no header that one of them is configured to add is a cookie.
-/
import GuidedLogin.Proofs.Blueprint
import GuidedLogin.Proofs.CookieEvents
import GuidedLogin.Proofs.StockSparing

namespace GuidedLogin

variable {σ α β C Act Ω : Type}

namespace Proc

/-- Work that leaves a property of the state in place, also where it fails, and ends with
good values only. -/
def Ensures (holds : σ → Prop) (good : α → Prop) (work : Proc σ α) : Prop :=
  ∀ state, holds state →
    holds (work.run state).2 ∧ ∀ value, (work.run state).1 = .ok value → good value

variable {holds : σ → Prop} {good : α → Prop}

theorem ensures_done {value : α} (proper : good value) :
    (done value : Proc σ α).Ensures holds good := by
  intro state held
  refine ⟨held, ?_⟩
  intro other same
  cases same
  exact proper

theorem Maintains.ensures {work : Proc σ α} (maintains : work.Maintains holds)
    (all : ∀ value, good value) : work.Ensures holds good :=
  fun state held => ⟨maintains state held, fun value _ => all value⟩

theorem ensures_read {next : σ → Proc σ α}
    (rest : ∀ state, holds state → (next state).Ensures holds good) :
    (read next).Ensures holds good :=
  fun state held => rest state held state held

theorem ensures_bind (fine : β → Prop) {work : Proc σ β} {next : β → Proc σ α}
    (first : work.Ensures holds fine)
    (rest : ∀ value, fine value → (next value).Ensures holds good) :
    (work.bind next).Ensures holds good := by
  intro state held
  obtain ⟨between, proper⟩ := first state held
  rw [run_bind]
  rcases ended : work.run state with ⟨fault | value, after⟩
  · rw [ended] at between
    refine ⟨between, ?_⟩
    intro value same
    cases same
  · rw [ended] at between proper
    exact rest value (proper value rfl) after between

theorem ensures_tryStep {change : σ → Except Error (α × σ)}
    (kept : ∀ state, holds state → ∀ made, change state = .ok made → holds made.2 ∧ good made.1) :
    (tryStep change).Ensures holds good := by
  intro state held
  rw [run_tryStep]
  cases changed : change state with
  | error cause =>
      refine ⟨held, ?_⟩
      intro value same
      cases same
  | ok made =>
      obtain ⟨left, proper⟩ := kept state held made changed
      refine ⟨left, ?_⟩
      intro value same
      cases same
      exact proper

theorem ensures_fail (fault : Fault) : (fail fault : Proc σ α).Ensures holds good := by
  intro state held
  refine ⟨held, ?_⟩
  intro value same
  cases same

theorem ensures_ofExcept {outcome : Except Error α}
    (proper : ∀ value, outcome = .ok value → good value) :
    (ofExcept outcome : Proc σ α).Ensures holds good := by
  cases outcome with
  | ok value => exact ensures_done (proper value rfl)
  | error cause => exact ensures_fail _

end Proc

/-! ### Steps and requests -/

/-- A node that a flow goes on from, if it does, without cookie headers. -/
def Node.Bare (node : Node Act) : Prop :=
  ∀ step, node.next? = some step → step.template.cookies = []

structure Common.Plain (jar : Option (Valued Act)) (common : Common Act Ω) : Prop where
  jar : common.shared cookieJarKey = jar
  bare : ∀ step : ContinueNode Act, common.shared lastContinueKey = some ⟨.step, step⟩ →
    step.template.cookies = []

def View.Plain (safe : C → Prop) (jar : Option (Valued Act)) (view : View C Act Ω) : Prop :=
  safe view.config ∧ view.common.Plain jar

def Invocation.Bare : Invocation Act → Prop
  | .node _ given => given.Bare
  | _ => True

def Yield.over (request : Request) : Yield Act → Request
  | .request built => built
  | _ => request

/-- Does a yield add just these cookie headers to the request given, if there is one? No
node that is made goes on with any. -/
def Invocation.Adds (added : List String) : Invocation Act → Yield Act → Prop
  | .adapter _ request, yield => (yield.over request).cookies = request.cookies ++ added
  | .start _ request, yield => (yield.over request).cookies = request.cookies ++ added
  | .next _ _ request, yield => (yield.over request).cookies = request.cookies ++ added
  | .transform _ _, .produced made => ∀ node, made = some node → node.Bare
  | .node _ _, .node made => made.Bare
  | _, _ => True

theorem Invocation.adds_nothing (invocation : Invocation Act) : invocation.Adds [] .nothing := by
  cases invocation <;> simp [Adds, Yield.over]

theorem Node.bare_of_none {node : Node Act} (terminal : node.next? = none) : node.Bare := by
  intro step next
  rw [terminal] at next
  cases next

theorem Node.Bare.attach {node : Node Act} (bare : node.Bare) (owner : InstanceId) :
    (node.attach owner).Bare := by
  cases node with
  | continuation step =>
      intro other same
      cases same
      exact bare step rfl
  | error error =>
      intro other same
      obtain ⟨step, retry, rfl⟩ := Option.map_eq_some_iff.mp same
      exact bare step retry
  | success success => exact bare
  | failure cause => exact bare

/-! ### Hooks and modules -/

/-- A hook that leaves a property of the state in place and spares cookies. -/
def Hook.SparesCookies (holds : σ → Prop) : Hook σ Act → Prop
  | .init work => work.Maintains holds
  | .start work => ∀ request,
      (work request).Ensures holds fun built => built.cookies = request.cookies
  | .next work => ∀ step request,
      (work step request).Ensures holds fun built => built.cookies = request.cookies
  | .response work => ∀ response, (work response).Maintains holds
  | .transform work => ∀ response,
      (work response).Ensures holds fun made => ∀ node, made = some node → node.Bare
  | .node work => ∀ node, node.Bare → (work node).Ensures holds Node.Bare
  | .success work => ∀ node, (work node).Maintains holds
  | .signOff work => ∀ request, (work request).Maintains holds

theorem Hook.SparesCookies.answer {holds : σ → Prop} {hook : Hook σ Act}
    (spares : hook.SparesCookies holds) {invocation : Invocation Act} (bare : invocation.Bare) :
    (hook.answer invocation).Ensures holds (invocation.Adds []) := by
  have idle : (Proc.done .nothing : Proc σ (Yield Act)).Ensures holds (invocation.Adds []) :=
    Proc.ensures_done invocation.adds_nothing
  cases hook with
  | init work =>
      cases invocation <;> first
        | exact idle
        | exact (Proc.maintains_bind spares fun _ => Proc.maintains_done _).ensures fun _ => trivial
  | start work =>
      cases invocation <;> first
        | exact idle
        | exact Proc.ensures_bind _ (spares _) fun built same =>
            Proc.ensures_done (same.trans (List.append_nil _).symm)
  | next work =>
      cases invocation <;> first
        | exact idle
        | exact Proc.ensures_bind _ (spares _ _) fun built same =>
            Proc.ensures_done (same.trans (List.append_nil _).symm)
  | response work =>
      cases invocation <;> first
        | exact idle
        | exact (Proc.maintains_bind (spares _) fun _ => Proc.maintains_done _).ensures fun _ =>
            trivial
  | transform work =>
      cases invocation <;> first
        | exact idle
        | exact Proc.ensures_bind _ (spares _) fun made proper => Proc.ensures_done proper
  | node work =>
      cases invocation <;> first
        | exact idle
        | exact Proc.ensures_bind _ (spares _ bare) fun made proper => Proc.ensures_done proper
  | success work =>
      cases invocation <;> first
        | exact idle
        | exact (Proc.maintains_bind (spares _) fun _ => Proc.maintains_done _).ensures fun _ =>
            trivial
  | signOff work =>
      cases invocation <;> first
        | exact idle
        | exact (Proc.maintains_bind (spares _) fun _ => Proc.maintains_done _).ensures fun _ =>
            trivial

structure Module.SparesCookies (module : Module C Act Ω) (safe : C → Prop) : Prop where
  setup : ∀ view jar, view.Plain safe jar → (module.setup view).2.Plain safe jar
  hooks : ∀ view, safe view.config → ∀ hook ∈ (module.setup view).1,
    ∀ jar, hook.SparesCookies (View.Plain safe jar)

theorem Module.sparesCookies_ofHooks {name : String} {fresh : C}
    {hooks : List (Hook (View C Act Ω) Act)} {safe : C → Prop}
    (spare : ∀ hook ∈ hooks, ∀ jar, hook.SparesCookies (View.Plain safe jar)) :
    (Module.ofHooks name fresh hooks).SparesCookies safe where
  setup := by
    intro view jar plain
    exact plain
  hooks := by
    intro view _ hook member jar
    exact spare hook member jar

/-! ### The stock modules -/

theorem EndpointConfig.cookies_target {url : Option String} {request built : Request}
    (pointed : target url request = .ok built) : built.cookies = request.cookies := by
  unfold target at pointed
  cases url with
  | none =>
      cases pointed
      rfl
  | some text =>
      change request.withUrlText text = .ok built at pointed
      unfold Request.withUrlText at pointed
      split at pointed
      · cases pointed
        rfl
      · cases pointed

private theorem EndpointConfig.cookies_parameters (parameters : List (String × String))
    (request : Request) :
    (parameters.foldl (fun request pair => request.withParameter pair.1 pair.2)
      request).cookies = request.cookies := by
  induction parameters generalizing request with
  | nil => rfl
  | cons pair rest ih => exact ih _

private theorem EndpointConfig.cookies_applyStart {config : EndpointConfig}
    {request built : Request}
    (applied : config.applyStart request = .ok built) : built.cookies = request.cookies := by
  unfold applyStart at applied
  cases pointed : target config.startUrl request with
  | error cause =>
      rw [pointed] at applied
      cases applied
  | ok next =>
      rw [pointed] at applied
      cases applied
      rw [cookies_parameters, ← cookies_target pointed]
      unfold withStartMethod
      cases config.startMethod <;> rfl

theorem sparesCookies_endpoint : (Module.endpoint : Module EndpointConfig Act Ω).SparesCookies
    fun _ => True := by
  apply Module.sparesCookies_ofHooks
  intro hook member jar
  rcases List.mem_cons.mp member with rfl | inRest
  · intro request
    exact Proc.ensures_read fun view _ => Proc.ensures_ofExcept fun built applied =>
      EndpointConfig.cookies_applyStart applied
  · rcases List.mem_singleton.mp inRest with rfl
    exact fun request => maintains_consult _

private theorem CustomHeaderConfig.cookies_apply (config : CustomHeaderConfig) (request : Request) :
    (config.apply request).cookies = request.cookies ++ config.headers.values "Cookie" := by
  have added : (config.apply request).headers = request.headers ++ config.headers := by
    unfold apply
    induction config.headers generalizing request with
    | nil => simp
    | cons header rest ih =>
        rw [List.foldl_cons, ih]
        simp [Request.withHeader]
  unfold Request.cookies
  rw [added, Headers.values_append]

theorem sparesCookies_customHeader :
    (Module.customHeader : Module CustomHeaderConfig Act Ω).SparesCookies
      fun config => config.headers.values "Cookie" = [] := by
  apply Module.sparesCookies_ofHooks
  intro hook member jar
  have adding : ∀ request : Request, (Proc.read fun view => .done (view.config.apply request) :
      Proc (View CustomHeaderConfig Act Ω) Request).Ensures
        (View.Plain (fun config => config.headers.values "Cookie" = []) jar)
        fun built => built.cookies = request.cookies := by
    intro request
    refine Proc.ensures_read fun view plain => Proc.ensures_done ?_
    rw [CustomHeaderConfig.cookies_apply, plain.1, List.append_nil]
  rcases List.mem_cons.mp member with rfl | inRest
  · exact adding
  · rcases List.mem_singleton.mp inRest with rfl
    exact fun step request => adding request

namespace JsonTransform

variable {jar : Option (Valued Act)}

private theorem bare_errorNode (config : JsonTransformConfig Act Ω) (response : Response)
    (body : Option JsonObject) : (config.errorNode response body).Bare := by
  apply Node.bare_of_none
  unfold JsonTransformConfig.errorNode
  dsimp only
  split <;> rfl

private theorem bare_stepNode {config : JsonTransformConfig Act Ω} {response : Response}
    {body : JsonObject} {outside : Ω} {made : Node Act × Ω}
    (stepped : config.stepNode response body outside = .ok made) : made.1.Bare := by
  unfold JsonTransformConfig.stepNode at stepped
  cases templated : config.template response body with
  | error cause =>
      rw [templated] at stepped
      cases stepped
  | ok template =>
      rw [templated] at stepped
      cases stepped
      intro step same
      cases same
      change template.cookies = []
      unfold JsonTransformConfig.template at templated
      split at templated
      · cases templated
        rfl
      · rename_i link _
        cases resolved : JsonTransformConfig.resolve response link with
        | error cause =>
            rw [resolved] at templated
            cases templated
        | ok url =>
            rw [resolved] at templated
            cases templated
            rfl

private theorem bare_transform {config : JsonTransformConfig Act Ω} {response : Response}
    {outside : Ω}
    {made : Option (Node Act) × Ω} (transformed : config.transform response outside = .ok made) :
    ∀ node, made.1 = some node → node.Bare := by
  intro node found
  unfold JsonTransformConfig.transform at transformed
  dsimp only at transformed
  split at transformed
  · cases transformed
    cases found
    exact bare_errorNode config response _
  · split at transformed
    · cases transformed
      cases found
    · split at transformed
      · cases transformed
        cases found
      · split at transformed
        · cases transformed
          cases found
          exact Node.bare_of_none rfl
        · rename_i body _ _ _ _
          cases stepped : config.stepNode response body outside with
          | error cause =>
              rw [stepped] at transformed
              cases transformed
          | ok result =>
              rw [stepped] at transformed
              cases transformed
              cases found
              exact bare_stepNode stepped

theorem maintains_forget :
    (forget : Proc (Sight Act Ω) Unit).Maintains (View.Plain (fun _ => True) jar) := by
  apply Proc.maintains_modify
  intro view plain
  refine ⟨trivial, (shared_erase_of_ne lastContinueKey_ne.symm).trans plain.2.jar, ?_⟩
  intro step remembered
  rw [shared_erase_self] at remembered
  cases remembered

theorem ensures_linkRetry {node : Node Act} (bare : node.Bare) :
    (linkRetry node : Proc (Sight Act Ω) (Node Act)).Ensures (View.Plain (fun _ => True) jar)
      Node.Bare := by
  cases node with
  | continuation step =>
      refine Proc.ensures_bind (fun _ => True) ?_ fun _ _ => Proc.ensures_done bare
      refine (Proc.maintains_modify ?_).ensures fun _ => trivial
      intro view plain
      refine ⟨trivial, (shared_set_of_ne _ _ lastContinueKey_ne.symm).trans plain.2.jar, ?_⟩
      intro other remembered
      rw [shared_set_self] at remembered
      cases remembered
      exact bare step rfl
  | success success => exact Proc.ensures_done bare
  | failure cause => exact Proc.ensures_done bare
  | error error =>
      change Proc.Ensures _ _ (if error.retry.isSome then _ else _)
      split
      · exact Proc.ensures_done bare
      · refine Proc.ensures_read fun view plain => ?_
        change Proc.Ensures _ _
          ((Proc.ofExcept (view.context.get lastContinueKey .step)).bind _)
        refine Proc.ensures_bind
          (fun found => ∀ step, found = some step → step.template.cookies = []) ?_ ?_
        · apply Proc.ensures_ofExcept
          intro found got step same
          subst same
          exact plain.2.bare step (Context.find?_of_get got)
        · intro found proper
          cases found with
          | none => exact Proc.ensures_done bare
          | some step =>
              apply Proc.ensures_done
              intro other same
              cases same
              exact proper _ rfl

end JsonTransform

theorem sparesCookies_jsonTransform :
    (Module.jsonTransform : Module (JsonTransformConfig Act Ω) Act Ω).SparesCookies
      fun _ => True := by
  apply Module.sparesCookies_ofHooks
  intro hook member jar
  simp only [List.mem_cons, List.not_mem_nil, or_false] at member
  rcases member with rfl | rfl | rfl | rfl
  · intro request
    exact Proc.ensures_bind (fun _ => True) (JsonTransform.maintains_forget.ensures fun _ => trivial)
      fun _ _ => Proc.ensures_done rfl
  · intro response
    apply Proc.ensures_tryStep
    intro view plain made changed
    cases transformed : view.config.transform response view.common.outside with
    | error cause =>
        rw [transformed] at changed
        cases changed
    | ok found =>
        rw [transformed] at changed
        cases changed
        have proper := JsonTransform.bare_transform transformed
        exact ⟨⟨trivial, plain.2.jar, plain.2.bare⟩, proper⟩
  · exact fun node bare => JsonTransform.ensures_linkRetry bare
  · exact fun success => Proc.maintains_bind JsonTransform.maintains_forget fun _ =>
      Proc.maintains_done _

/-- Bounds of the configurations of a catalog: no header added is a cookie. -/
def CatalogKey.plainAt {ι : Type} {Own : ι → Type} (safe : (id : ι) → Own id → Prop) :
    (key : CatalogKey ι) → key.Config Own Act Ω → Prop
  | .endpoint, _ => True
  | .customHeader, config => config.headers.values "Cookie" = []
  | .cookie, _ => True
  | .jsonTransform, _ => True
  | .added id, config => safe id config

theorem CatalogKey.sparesCookies_module {ι : Type} {Own : ι → Type}
    {own : (id : ι) → Module (Own id) Act Ω} {safe : (id : ι) → Own id → Prop} {key : CatalogKey ι}
    (notCookie : key ≠ .cookie)
    (others : ∀ id, key = .added id → (own id).SparesCookies (safe id)) :
    (CatalogKey.module own key).SparesCookies (CatalogKey.plainAt safe key) := by
  cases key with
  | endpoint => exact sparesCookies_endpoint
  | customHeader => exact sparesCookies_customHeader
  | cookie => exact absurd rfl notCookie
  | jsonTransform => exact sparesCookies_jsonTransform
  | added id => exact others id rfl

end GuidedLogin
