/-
Workflows of modules that are registered once and whose setups always yield the same hooks.
What is registered then determines the hooks at every stage but for their order
(`Settled.works_stage`, `items_perm`), and the configurations that the registrations begin
with but for their positions (`start_config_eq`).
-/
import GuidedLogin.Proofs.Assembly
import GuidedLogin.Proofs.RequestStages
import GuidedLogin.Proofs.Undisturbed

namespace GuidedLogin

variable {κ : Type} [DecidableEq κ] {Config : κ → Type} {Act Ω : Type}

def Registration.item {κ : Type} {Config : κ → Type} (registration : Registration Config) :
    Sigma Config :=
  ⟨registration.key, registration.config⟩

namespace Workflow

private theorem installations_of_setups {modules : (key : κ) → Module (Config key) Act Ω}
    {hooks : (key : κ) → List (Hook (View (Config key) Act Ω) Act)}
    (setups : ∀ key view, (modules key).setup view = (hooks key, view)) (first : Nat)
    (registrations : List (Registration Config)) (scope : Scope Config Act Ω) :
    installations modules first registrations scope =
      (registrations.zipIdx first).flatMap fun numbered =>
        (hooks numbered.1.key).map fun hook =>
          ⟨numbered.2, hook.on (Scope.viewPart numbered.1.key numbered.2)⟩ := by
  induction registrations generalizing first scope with
  | nil => rfl
  | cons registration rest ih =>
      rw [installations, List.zipIdx_cons, List.flatMap_cons, ih, setups]

end Workflow

namespace Blueprint

def keys (plan : Blueprint Config Act Ω) : List κ := plan.registrations.map Registration.key

def place (plan : Blueprint Config Act Ω) (key : κ) : Nat := plan.keys.idxOf key

def part (plan : Blueprint Config Act Ω) (key : κ) :
    Part (Scope Config Act Ω) (View (Config key) Act Ω) :=
  Scope.viewPart key (plan.place key)

def hooksOf (plan : Blueprint Config Act Ω) (key : κ) : List (Hook (View (Config key) Act Ω) Act) :=
  ((plan.modules key).setup ⟨(plan.modules key).fresh, ⟨∅, plan.outside⟩⟩).1

def items (plan : Blueprint Config Act Ω) (stage : Stage) :
    List (Sigma fun key => Hook (View (Config key) Act Ω) Act) :=
  plan.keys.flatMap fun key => ((plan.hooksOf key).filter (·.stage = stage)).map (Sigma.mk key)

/-- Every module is registered once at most, and no setup looks at what it is given. -/
structure Settled (plan : Blueprint Config Act Ω) : Prop where
  once : plan.keys.Nodup
  setups : ∀ key view, (plan.modules key).setup view = (plan.hooksOf key, view)

variable {plan left right : Blueprint Config Act Ω}

theorem part_lawful (plan : Blueprint Config Act Ω) (key : κ) : (plan.part key).Lawful :=
  Scope.viewPart_lawful key _

theorem place_of_registered (once : plan.keys.Nodup) {owner : Nat}
    {registration : Registration Config}
    (registered : plan.registrations[owner]? = some registration) :
    plan.place registration.key = owner := by
  have found : plan.keys[owner]? = some registration.key := by
    unfold keys
    rw [List.getElem?_map, registered, Option.map_some]
  obtain ⟨within, same⟩ := List.getElem?_eq_some_iff.mp found
  unfold place
  rw [← same]
  exact once.idxOf_getElem owner within

theorem Settled.works_stage (settled : plan.Settled) (stage : Stage) :
    (plan.workflow.hooks.stage stage).map Installed.work =
      (plan.items stage).map fun item => item.2.on (plan.part item.1) := by
  unfold workflow items keys
  rw [Workflow.stage_build, Workflow.installations_of_setups settled.setups, List.filter_flatMap,
    List.map_flatMap, List.map_flatMap, List.flatMap_map]
  have numbers := List.zipIdx_map_fst 0 plan.registrations
  conv_rhs => rw [← numbers, List.flatMap_map]
  apply List.flatMap_congr
  intro numbered member
  have here := place_of_registered settled.once (List.mem_zipIdx_iff_getElem?.mp member)
  simp [part, here, List.filter_map, Function.comp_def, Workflow.stage_on]

theorem Settled.engine_inner (settled : plan.Settled) : plan.engine.inner = plan.start := by
  let unchanged : Scope Config Act Ω → Prop := fun scope => scope = plan.start
  have built : unchanged plan.engine.inner := by
    refine installFrom_maintains plan.modules 0 plan.registrations ?_ _ rfl
    intro index registration scope _ same
    rw [settled.setups, (Scope.viewPart_lawful _ _).set_get]
    exact same
  exact built

omit [DecidableEq κ] in
theorem mem_items {stage : Stage} {item : Sigma fun key => Hook (View (Config key) Act Ω) Act} :
    item ∈ plan.items stage ↔
      item.1 ∈ plan.keys ∧ item.2 ∈ plan.hooksOf item.1 ∧ item.2.stage = stage := by
  obtain ⟨key, hook⟩ := item
  simp only [items, List.mem_flatMap, List.mem_map, List.mem_filter, decide_eq_true_eq]
  constructor
  · rintro ⟨other, registered, hook, ⟨yielded, staged⟩, same⟩
    cases same
    exact ⟨registered, yielded, staged⟩
  · rintro ⟨registered, yielded, staged⟩
    exact ⟨key, registered, hook, ⟨yielded, staged⟩, rfl⟩

/-! ### Two workflows that register the same -/

structure Reordered (left right : Blueprint Config Act Ω) : Prop where
  settled : left.Settled
  otherSettled : right.Settled
  modules : left.modules = right.modules
  outside : left.outside = right.outside
  items : (left.settings.registrations.map Registration.item).Perm
    (right.settings.registrations.map Registration.item)

omit [DecidableEq κ] in
theorem registrations_perm (plan : Blueprint Config Act Ω) :
    plan.registrations.Perm plan.settings.registrations := by
  unfold registrations
  rw [Registry.ordered_eq_insertionSort]
  exact List.perm_insertionSort _ _

omit [DecidableEq κ] in
theorem Reordered.items_perm (reordered : left.Reordered right) :
    (left.registrations.map Registration.item).Perm (right.registrations.map Registration.item) :=
  ((left.registrations_perm.map _).trans reordered.items).trans
    (right.registrations_perm.map _).symm

omit [DecidableEq κ] in
theorem Reordered.keys_perm (reordered : left.Reordered right) : left.keys.Perm right.keys := by
  have mapped := reordered.items_perm.map Sigma.fst
  rw [List.map_map, List.map_map] at mapped
  exact mapped

omit [DecidableEq κ] in
theorem Reordered.hooksOf_eq (reordered : left.Reordered right) (key : κ) :
    left.hooksOf key = right.hooksOf key := by
  unfold hooksOf
  rw [reordered.modules, reordered.outside]

omit [DecidableEq κ] in
theorem Reordered.stage_perm (reordered : left.Reordered right) (stage : Stage) :
    (left.items stage).Perm (right.items stage) := by
  unfold Blueprint.items
  simp only [reordered.hooksOf_eq]
  exact reordered.keys_perm.flatMap_right _

/-- Where only one module has hooks at a stage, their order is the same. -/
theorem Reordered.items_eq (reordered : left.Reordered right) {stage : Stage} {only : κ}
    (others : ∀ key, key ≠ only → ∀ hook ∈ left.hooksOf key, hook.stage ≠ stage) :
    left.items stage = right.items stage := by
  have alone : ∀ plan : Blueprint Config Act Ω, (∀ key, plan.hooksOf key = left.hooksOf key) →
      plan.items stage = (plan.keys.filter (· = only)).flatMap fun key =>
        ((left.hooksOf key).filter (·.stage = stage)).map (Sigma.mk key) := by
    intro plan same
    unfold Blueprint.items
    simp only [same]
    induction plan.keys with
    | nil => rfl
    | cons key rest ih =>
        rw [List.flatMap_cons, ih]
        by_cases here : key = only
        · rw [List.filter_cons_of_pos (by simpa using here), List.flatMap_cons]
        · have none : (left.hooksOf key).filter (·.stage = stage) = [] :=
            List.filter_eq_nil_iff.mpr fun hook member => by
              simpa using others key here hook member
          rw [List.filter_cons_of_neg (by simpa using here), none]
          rfl
  rw [alone left fun _ => rfl, alone right fun key => (reordered.hooksOf_eq key).symm,
    List.filter_eq, List.filter_eq, reordered.keys_perm.count_eq]

/-- The configuration that a registration begins with is the one that it was registered with. -/
theorem Settled.start_item_mem (settled : plan.Settled) {key : κ} (registered : key ∈ plan.keys) :
    ⟨key, plan.start.configs key (plan.place key)⟩ ∈
      plan.registrations.map Registration.item := by
  obtain ⟨registration, member, rfl⟩ := List.mem_map.mp registered
  obtain ⟨owner, found⟩ := List.mem_iff_getElem?.mp member
  have configured : plan.start.configs registration.key owner = registration.config :=
    configsOf_registered found
  rw [place_of_registered settled.once found, configured]
  exact List.mem_map_of_mem member

private theorem start_config_of_not_mem {key : κ} (absent : key ∉ plan.keys) :
    plan.start.configs key (plan.place key) = (plan.modules key).fresh := by
  have last : plan.registrations[plan.place key]? = none := by
    unfold place
    rw [List.idxOf_eq_length absent, keys, List.length_map, List.getElem?_eq_none (Nat.le_refl _)]
  change ((plan.registrations[plan.place key]?).bind (Registry.configAt? key)).getD _ = _
  rw [last]
  rfl

theorem Reordered.start_config_eq (reordered : left.Reordered right) (key : κ) :
    left.start.configs key (left.place key) = right.start.configs key (right.place key) := by
  by_cases registered : key ∈ left.keys
  · have there := (reordered.keys_perm.mem_iff).mp registered
    have first := reordered.settled.start_item_mem registered
    have second := reordered.items_perm.mem_iff.mpr (reordered.otherSettled.start_item_mem there)
    have once : ((left.registrations.map Registration.item).map Sigma.fst).Nodup := by
      rw [List.map_map]
      exact reordered.settled.once
    have same := List.inj_on_of_nodup_map once first second rfl
    exact eq_of_heq (Sigma.mk.inj same).2
  · have nowhere : key ∉ right.keys :=
      fun there => registered (reordered.keys_perm.mem_iff.mpr there)
    rw [start_config_of_not_mem registered, start_config_of_not_mem nowhere, reordered.modules]

end Blueprint

end GuidedLogin
