/-
What the stock modules spare. Those that only read their configuration spare everything;
the cookies spare every shared value but the jar.
-/
import GuidedLogin.Proofs.Sparing
import GuidedLogin.Stock.Catalog

namespace GuidedLogin

variable {C Act Ω β : Type}

abbrev NoneAdded (_ : Empty) : Type := Unit

def CatalogKey.safeAt {ι : Type} {Own : ι → Type} (safe : (id : ι) → Own id → Prop)
    (cookie : CookieConfig Ω → Prop) (json : JsonTransformConfig Act Ω → Prop) :
    (key : CatalogKey ι) → key.Config Own Act Ω → Prop
  | .endpoint, _ => True
  | .customHeader, _ => True
  | .cookie, config => cookie config
  | .jsonTransform, config => json config
  | .added id, config => safe id config

theorem CatalogKey.safeAt_rebound {ι : Type} {Own : ι → Type} {safe : (id : ι) → Own id → Prop}
    {bound rebound : CookieConfig Ω → Prop} {json : JsonTransformConfig Act Ω → Prop}
    {key : CatalogKey ι} {config : key.Config Own Act Ω} (within : safeAt safe bound json key config)
    (cookies : ∀ found : CookieConfig Ω, key = .cookie → HEq config found → rebound found) :
    safeAt safe rebound json key config := by
  cases key with
  | cookie => exact cookies config rfl HEq.rfl
  | endpoint => exact within
  | customHeader => exact within
  | jsonTransform => exact within
  | added id => exact within

theorem lastContinueKey_ne : lastContinueKey ≠ cookieJarKey := by decide

def Common.shared (key : String) (common : Common Act Ω) : Option (Valued Act) :=
  common.context.find? key

theorem maintains_consult {C α : Type} {holds : View C Act Ω → Prop}
    (question : C → Except Error α) :
    (View.consult question : Proc (View C Act Ω) α).Maintains holds :=
  Proc.maintains_read fun _ _ => Proc.maintains_ofExcept _

theorem spares_endpoint (safe : EndpointConfig → Prop) (probe : Common Act Ω → β) :
    Module.endpoint.Spares safe probe := by
  apply Module.spares_ofHooks
  intro hook member value
  rcases List.mem_cons.mp member with rfl | inRest
  · exact fun request => maintains_consult _
  · rcases List.mem_singleton.mp inRest with rfl
    exact fun request => maintains_consult _

theorem spares_customHeader (safe : CustomHeaderConfig → Prop) (probe : Common Act Ω → β) :
    Module.customHeader.Spares safe probe := by
  apply Module.spares_ofHooks
  intro hook member value
  rcases List.mem_cons.mp member with rfl | inRest
  · exact fun request => Proc.maintains_read fun view _ => Proc.maintains_done _
  · rcases List.mem_singleton.mp inRest with rfl
    exact fun step request => Proc.maintains_read fun view _ => Proc.maintains_done _

private theorem Context.update_ok {context : Context Act} {key : String} {kind : Kind}
    {change : Option (kind.Value Act) → kind.Value Act} {updated : kind.Value Act × Context Act}
    (changed : context.update key kind change = .ok updated) :
    ∃ found, context.get key kind = .ok found ∧
      updated = (change found, context.set key kind (change found)) := by
  unfold Context.update at changed
  rw [TypedMap.update_eq] at changed
  unfold Context.get
  cases got : TypedMap.get context key kind with
  | error fault =>
      rw [got] at changed
      cases changed
  | ok found =>
      rw [got] at changed
      cases changed
      exact ⟨found, rfl, rfl⟩

theorem Context.get_of_find? {context : Context Act} {key : String} {kind : Kind}
    {value : Option (kind.Value Act)}
    (found : context.find? key = value.map fun value => ⟨kind, value⟩) :
    context.get key kind = .ok value := by
  unfold Context.get TypedMap.get
  rw [found]
  cases value with
  | none => rfl
  | some value =>
      change ((if same : kind = kind then .ok (some (same ▸ value))
        else .error _ : Except (TypedMap.Mismatch Kind) _).mapError Context.mismatch) = _
      rw [dif_pos rfl]
      rfl

theorem Context.find?_of_get {context : Context Act} {key : String} {kind : Kind}
    {value : kind.Value Act} (got : context.get key kind = .ok (some value)) :
    context.find? key = some ⟨kind, value⟩ := by
  unfold Context.get TypedMap.get at got
  cases found : NameMap.find? context key with
  | none =>
      rw [found] at got
      cases got
  | some kept =>
      obtain ⟨actual, there⟩ := kept
      rw [found] at got
      dsimp only at got
      by_cases same : actual = kind
      · subst same
        rw [dif_pos rfl] at got
        cases got
        rfl
      · rw [dif_neg same] at got
        cases got

theorem shared_set_of_ne {view : View C Act Ω} {key other : String} (kind : Kind)
    (value : kind.Value Act) (different : key ≠ other) :
    (view.withContext (view.context.set other kind value)).common.shared key =
      view.common.shared key := by
  change NameMap.find? (NameMap.insert view.common.context other ⟨kind, value⟩) key = _
  rw [NameMap.find?_insert, if_neg different]
  rfl

theorem shared_set_self (view : View C Act Ω) (key : String) (kind : Kind) (value : kind.Value Act) :
    (view.withContext (view.context.set key kind value)).common.shared key =
      some ⟨kind, value⟩ := by
  change NameMap.find? (NameMap.insert view.common.context key ⟨kind, value⟩) key = _
  rw [NameMap.find?_insert, if_pos rfl]

theorem shared_erase_self (view : View C Act Ω) (key : String) :
    (view.withContext (view.context.erase key)).common.shared key = none := by
  change NameMap.find? (NameMap.erase view.common.context key) key = _
  rw [NameMap.find?_erase, if_pos rfl]

theorem shared_erase_of_ne {view : View C Act Ω} {key other : String} (different : key ≠ other) :
    (view.withContext (view.context.erase other)).common.shared key = view.common.shared key := by
  change NameMap.find? (NameMap.erase view.common.context other) key = _
  rw [NameMap.find?_erase, if_neg different]
  rfl

namespace Cookie

theorem maintains_storage (holds : Sight Act Ω → Prop)
    (own : ∀ content view, holds view → holds (CookieConfig.ownPart.set content view))
    (outside : ∀ outside view, holds view → holds (View.outsidePart.set outside view))
    (config : CookieConfig Ω) (entry text : String) :
    ((config.storage : Storage (Sight Act Ω)).get entry).Maintains holds ∧
      ((config.storage : Storage (Sight Act Ω)).save entry text).Maintains holds ∧
      ((config.storage : Storage (Sight Act Ω)).delete entry).Maintains holds := by
  unfold CookieConfig.storage
  cases config.store with
  | own content =>
      exact ⟨Proc.maintains_on own _, Proc.maintains_on own _, Proc.maintains_on own _⟩
  | shared storage =>
      exact ⟨Proc.maintains_on outside _, Proc.maintains_on outside _, Proc.maintains_on outside _⟩

abbrev Other (key : String) (value : Option (Valued Act)) (sight : Sight Act Ω) : Prop :=
  sight.Shows (fun _ => True) (Common.shared key) value

variable {key : String} {value : Option (Valued Act)}

theorem other_own (content : NameMap String) (sight : Sight Act Ω) (held : Other key value sight) :
    Other key value (CookieConfig.ownPart.set content sight) := held

theorem other_outside (outside : Ω) (sight : Sight Act Ω) (held : Other key value sight) :
    Other key value (View.outsidePart.set outside sight) := held

theorem maintains_changeJar (different : key ≠ cookieJarKey) (change : CookieJar → CookieJar) :
    (changeJar change : Proc (Sight Act Ω) Unit).Maintains (Other key value) := by
  apply Proc.maintains_tryStep
  intro sight held made changed
  cases updated : sight.context.update cookieJarKey .jar fun jar => change (jar.getD ∅) with
  | error cause =>
      rw [updated] at changed
      cases changed
  | ok result =>
      rw [updated] at changed
      cases changed
      obtain ⟨found, _, rfl⟩ := Context.update_ok updated
      exact ⟨trivial, (shared_set_of_ne _ _ different).trans held.2⟩

theorem maintains_attach (request : Request) :
    (attach request : Proc (Sight Act Ω) Request).Maintains (Other key value) :=
  Proc.maintains_read fun _ _ => Proc.maintains_ofExcept _

theorem maintains_load (different : key ≠ cookieJarKey) :
    (load : Proc (Sight Act Ω) Unit).Maintains (Other key value) := by
  refine Proc.maintains_bind Proc.maintains_state fun sight => ?_
  obtain ⟨get, _, _⟩ := maintains_storage (Other key value) other_own
    other_outside sight.config sight.config.storageKey ""
  refine Proc.maintains_bind get fun found => ?_
  cases found with
  | none => exact Proc.maintains_done ()
  | some text =>
      dsimp only
      split
      · exact Proc.maintains_fail _
      · exact maintains_changeJar different _

theorem maintains_absorb (different : key ≠ cookieJarKey) (response : Response) :
    (absorb response : Proc (Sight Act Ω) (List String)).Maintains (Other key value) := by
  unfold absorb
  split
  · exact Proc.maintains_done _
  · exact Proc.maintains_bind (maintains_changeJar different _) fun _ => Proc.maintains_done _

theorem maintains_persist (changed : List String) :
    (persist changed : Proc (Sight Act Ω) Unit).Maintains (Other key value) := by
  refine Proc.maintains_bind Proc.maintains_state fun sight => ?_
  change Proc.Maintains _ (if changed.any sight.config.persist.contains then _ else _)
  split
  · refine Proc.maintains_bind (Proc.maintains_ofExcept _) fun jar => ?_
    obtain ⟨_, save, delete⟩ := maintains_storage (Other key value) other_own
      other_outside sight.config sight.config.storageKey
      (Json.renderTexts (jar.keep sight.config.persist.contains))
    change Proc.Maintains _ (if (jar.keep sight.config.persist.contains).isEmpty then _ else _)
    split
    · exact delete
    · exact save
  · exact Proc.maintains_done ()

theorem maintains_forget (different : key ≠ cookieJarKey) :
    (forget : Proc (Sight Act Ω) Unit).Maintains (Other key value) := by
  refine Proc.maintains_bind Proc.maintains_state fun sight => ?_
  refine Proc.maintains_bind ?_ fun _ => ?_
  · apply Proc.maintains_modify
    intro sight held
    exact ⟨trivial, (shared_erase_of_ne different).trans held.2⟩
  · exact (maintains_storage _ other_own other_outside sight.config sight.config.storageKey "").2.2

end Cookie

/-- The cookies spare every shared value but the jar. -/
theorem spares_cookie {key : String} (different : key ≠ cookieJarKey) :
    (Module.cookie : Module (CookieConfig Ω) Act Ω).Spares (fun _ => True) (Common.shared key) := by
  apply Module.spares_ofHooks
  intro hook member value
  simp only [List.mem_cons, List.not_mem_nil, or_false] at member
  rcases member with rfl | rfl | rfl | rfl | rfl
  · exact Cookie.maintains_load different
  · exact fun request => Cookie.maintains_attach request
  · exact fun step request => Cookie.maintains_attach request
  · exact fun response => Proc.maintains_bind (Cookie.maintains_absorb different response)
      fun changed => Cookie.maintains_persist changed
  · exact fun request => Proc.maintains_bind (Cookie.maintains_attach request) fun request =>
      Proc.maintains_bind (Cookie.maintains_forget different) fun _ => Proc.maintains_done request

/-! ### The stages of the stock modules -/

theorem stage_endpoint {view : View EndpointConfig Act Ω}
    {hook : Hook (View EndpointConfig Act Ω) Act}
    (member : hook ∈ (Module.endpoint.setup view).1) : hook.stage ∈ [Stage.start, .signOff] :=
  List.mem_map_of_mem (f := Hook.stage) member

theorem stage_customHeader {view : View CustomHeaderConfig Act Ω}
    {hook : Hook (View CustomHeaderConfig Act Ω) Act}
    (member : hook ∈ (Module.customHeader.setup view).1) : hook.stage ∈ [Stage.start, .next] :=
  List.mem_map_of_mem (f := Hook.stage) member

theorem stage_cookie {view : View (CookieConfig Ω) Act Ω}
    {hook : Hook (View (CookieConfig Ω) Act Ω) Act}
    (member : hook ∈ (Module.cookie.setup view).1) :
    hook.stage ∈ [Stage.init, .start, .next, .response, .signOff] :=
  List.mem_map_of_mem (f := Hook.stage) member

theorem stage_jsonTransform {view : View (JsonTransformConfig Act Ω) Act Ω}
    {hook : Hook (View (JsonTransformConfig Act Ω) Act Ω) Act}
    (member : hook ∈ (Module.jsonTransform.setup view).1) :
    hook.stage ∈ [Stage.start, .transform, .node, .success] :=
  List.mem_map_of_mem (f := Hook.stage) member

end GuidedLogin
