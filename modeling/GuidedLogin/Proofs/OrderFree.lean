/-
The order of the stock modules is of no matter. Two workflows with the same registrations of
stock modules, once each, whatever their priorities and the order in which they were made,
build requests that are alike at every stage that builds one (`Stocked.simulates_builders`), and
at all others their hooks do alike (`Stocked.hooks_alike`).
-/
import GuidedLogin.Proofs.StockTouches

namespace GuidedLogin

variable {Act Ρ : Type}

namespace Blueprint

abbrev OfStock (Act Ρ : Type) : Type := Blueprint (Stock Act (Ρ × Desk)) Act (Ρ × Desk)

abbrev StockScope (Act Ρ : Type) : Type := Scope (Stock Act (Ρ × Desk)) Act (Ρ × Desk)

variable {plan left right : OfStock Act Ρ} {key : CatalogKey Empty}

def held (plan : OfStock Act Ρ) (scope : StockScope Act Ρ) (key : CatalogKey Empty) :
    Stock Act (Ρ × Desk) key :=
  scope.configs key (plan.place key)

structure Twins (left right : OfStock Act Ρ) (scope other : StockScope Act Ρ) : Prop where
  configs : left.held scope = right.held other
  common : scope.common.Alike other.common
  sound : ∀ key ∈ left.keys, key.Sound (left.held scope key)

theorem held_set (view : View (Stock Act (Ρ × Desk) key) Act (Ρ × Desk))
    (scope : StockScope Act Ρ) :
    plan.held ((plan.part key).set view scope) =
      Function.update (plan.held scope) key view.config := by
  funext other
  by_cases here : other = key
  · subst here
    rw [Function.update_self]
    exact Scope.setConfig_self scope.configs other _ _
  · rw [Function.update_of_ne here]
    exact Scope.setConfig_of_key_ne scope.configs _ _ _ (Ne.symm here)

theorem sound_update {configs : (key : CatalogKey Empty) → Stock Act (Ρ × Desk) key}
    {keys : List (CatalogKey Empty)} {config : Stock Act (Ρ × Desk) key}
    (sound : ∀ other ∈ keys, other.Sound (configs other)) (new : key.Sound config) :
    ∀ other ∈ keys, other.Sound (Function.update configs key config other) := by
  intro other member
  by_cases here : other = key
  · subst here
    rw [Function.update_self]
    exact new
  · rw [Function.update_of_ne here]
    exact sound other member

namespace Twins

variable {scope other : StockScope Act Ρ}

private theorem view (twins : left.Twins right scope other) (registered : key ∈ left.keys) :
    ((left.part key).get scope).Alike key.Sound ((right.part key).get other) :=
  ⟨congrFun twins.configs key, twins.common, twins.sound key registered⟩

private theorem set (twins : left.Twins right scope other)
    {first second : View (Stock Act (Ρ × Desk) key) Act (Ρ × Desk)}
    (views : first.Alike key.Sound second) :
    left.Twins right ((left.part key).set first scope) ((right.part key).set second other) where
  configs := by rw [held_set, held_set, twins.configs, views.config]
  common := views.common
  sound := by
    rw [held_set]
    exact sound_update twins.sound views.sound

end Twins

/-! ### Hooks that build a request -/

structure Proper (plan : OfStock Act Ρ) (outside : Ρ × Desk) (scope : StockScope Act Ρ) : Prop where
  sound : ∀ key ∈ plan.keys, key.Sound (plan.held scope key)
  jar : scope.common.HasJar
  outside : scope.common.outside = outside

private theorem Twins.proper {scope other : StockScope Act Ρ}
    (twins : left.Twins right scope other) :
    left.Proper scope.common.outside scope :=
  ⟨twins.sound, twins.common.jar, rfl⟩

def sketch (plan : OfStock Act Ρ) (request : Request) (scope : StockScope Act Ρ) :
    Sketch Act (Ρ × Desk) :=
  ⟨request.plain, plan.held scope, scope.common.context⟩

variable {own : (id : Empty) → Module (NoneAdded id) Act (Ρ × Desk)}

/-- Every hook that builds a request does what the touch of its module tells. -/
theorem builds_of_mem (stock : plan.modules = CatalogKey.module own) {visit : Visit Act}
    {item : Sigma fun key => Hook (View (Stock Act (Ρ × Desk) key) Act (Ρ × Desk)) Act}
    (member : item ∈ plan.items visit.stage) (outside : Ρ × Desk) :
    Builds (plan.Proper outside) plan.sketch (Sketch.touch visit.stage item.1)
      ((item.2.on (plan.part item.1)).build visit) := by
  obtain ⟨registered, yielded, staged⟩ := mem_items.mp member
  unfold hooksOf at yielded
  rw [stock] at yielded
  intro request scope proper
  have sound : item.1.Sound ((plan.part item.1).get scope).config := proper.sound _ registered
  obtain ⟨built, after, ran, drawn⟩ :=
    CatalogKey.drawn_of_mem own yielded staged request sound proper.jar
  refine ⟨built, (plan.part item.1).set after scope, ?_, ⟨?_, drawn.jar, ?_⟩, ?_⟩
  · rw [Hook.build_on, Proc.run_on _ (plan.part_lawful _), ran]
  · rw [held_set]
    exact sound_update proper.sound drawn.sound
  · exact drawn.outside.trans proper.outside
  · unfold sketch
    rw [held_set]
    exact drawn.drawn (plan.held scope) rfl

private theorem Settled.builders_eq (settled : plan.Settled) (visit : Visit Act) :
    plan.workflow.builders visit =
      (plan.items visit.stage).map fun item => (item.2.on (plan.part item.1)).build visit := by
  have works := congrArg (List.map fun work => work.build visit) (settled.works_stage visit.stage)
  rw [List.map_map, List.map_map] at works
  exact works

/-- All hooks together do what one touch after another tells, without fail. -/
theorem Settled.exists_run_builders (settled : plan.Settled)
    (stock : plan.modules = CatalogKey.module own) {given : Nat → Request → Invocation Act}
    (silent : ∀ position request, (given position request).sent? = none) (visit : Visit Act)
    (request : Request) {engine : Engine (StockScope Act Ρ) Act} {outside : Ρ × Desk}
    (proper : plan.Proper outside engine.inner) :
    ∃ built after,
      (Workflow.foldStage given 0 (plan.workflow.builders visit) request).run engine =
        (.ok built, after) ∧
      plan.Proper outside after.inner ∧
      plan.sketch built after.inner =
        (plan.items visit.stage).foldl (fun drawn item => Sketch.touch visit.stage item.1 drawn)
          (plan.sketch request engine.inner) ∧
      after.initialized = engine.initialized ∧ after.sent = engine.sent := by
  rw [settled.builders_eq]
  exact Workflow.exists_run_foldStage silent
    (fun item member => builds_of_mem stock member outside) 0 request engine proper

structure Stocked (own : (id : Empty) → Module (NoneAdded id) Act (Ρ × Desk))
    (left right : OfStock Act Ρ) : Prop where
  reordered : left.Reordered right
  stock : left.modules = CatalogKey.module own

namespace Stocked

variable {scope other : StockScope Act Ρ}

private theorem stockToo (stocked : Stocked own left right) :
    right.modules = CatalogKey.module own :=
  stocked.reordered.modules.symm.trans stocked.stock

private theorem properToo (stocked : Stocked own left right)
    (twins : left.Twins right scope other) :
    right.Proper other.common.outside other where
  sound := by
    intro key member
    rw [← twins.configs]
    exact twins.sound key (stocked.reordered.keys_perm.mem_iff.mpr member)
  jar := by
    obtain ⟨jar, found⟩ := twins.common.jar
    exact ⟨jar, (twins.common.shared cookieJarKey).trans found⟩
  outside := rfl

theorem drawn_eq (stocked : Stocked own left right) (twins : left.Twins right scope other)
    {request another : Request} (alike : request.Alike another) (stage : Stage) :
    (left.items stage).foldl (fun drawn item => Sketch.touch stage item.1 drawn)
        (left.sketch request scope) =
      (right.items stage).foldl (fun drawn item => Sketch.touch stage item.1 drawn)
        (right.sketch another other) := by
  have begun : left.sketch request scope = right.sketch another other := by
    unfold sketch
    rw [Request.alike_iff.mp alike, twins.configs, twins.common.context]
  rw [begun]
  apply (stocked.reordered.stage_perm stage).foldl_eq'
  intro item _ item' _ drawn
  exact Sketch.touch_comm stage item.1 item'.1 drawn

theorem exists_run_builders (stocked : Stocked own left right) {visit visitToo : Visit Act}
    (staged : visit.stage = visitToo.stage) {given givenToo : Nat → Request → Invocation Act}
    (silent : ∀ position request, (given position request).sent? = none)
    (silentToo : ∀ position request, (givenToo position request).sent? = none)
    {request another : Request} (alike : request.Alike another)
    {first second : Engine (StockScope Act Ρ) Act}
    (held : Engine.Alike (left.Twins right) first second) :
    ∃ built after builtToo afterToo,
      (Workflow.foldStage given 0 (left.workflow.builders visit) request).run first =
          (.ok built, after) ∧
        (Workflow.foldStage givenToo 0 (right.workflow.builders visitToo) another).run second =
          (.ok builtToo, afterToo) ∧
        built.Alike builtToo ∧ Engine.Alike (left.Twins right) after afterToo := by
  have twins := held.inner
  obtain ⟨built, after, ran, kept, drawn, initialized, sent⟩ :=
    stocked.reordered.settled.exists_run_builders stocked.stock silent visit request twins.proper
  obtain ⟨builtToo, afterToo, ranToo, keptToo, drawnToo, initializedToo, sentToo⟩ :=
    stocked.reordered.otherSettled.exists_run_builders stocked.stockToo silentToo visitToo another
      (stocked.properToo twins)
  have same : left.sketch built after.inner = right.sketch builtToo afterToo.inner := by
    rw [drawn, drawnToo, ← staged]
    exact stocked.drawn_eq twins alike visit.stage
  obtain ⟨plain, configs, context⟩ := Sketch.mk.inj same
  have common : after.inner.common.Alike afterToo.inner.common := by
    refine ⟨context, ?_, ?_, kept.jar⟩
    · rw [kept.outside, keptToo.outside]
      exact twins.common.rest
    · rw [kept.outside, keptToo.outside]
      exact twins.common.desk
  refine ⟨built, after, builtToo, afterToo, ran, ranToo, Request.alike_iff.mpr plain,
    ⟨configs, common, kept.sound⟩, ?_, ?_⟩
  · rw [initialized, initializedToo]
    exact held.initialized
  · rw [sent, sentToo]
    exact held.sent

theorem simulates_builders (stocked : Stocked own left right) {visit visitToo : Visit Act}
    (staged : visit.stage = visitToo.stage) {given givenToo : Nat → Request → Invocation Act}
    (silent : ∀ position request, (given position request).sent? = none)
    (silentToo : ∀ position request, (givenToo position request).sent? = none)
    {request another : Request} (alike : request.Alike another) :
    (Workflow.foldStage given 0 (left.workflow.builders visit) request).Simulates
      (Engine.Alike (left.Twins right)) Request.Alike
      (Workflow.foldStage givenToo 0 (right.workflow.builders visitToo) another) := by
  intro first second held
  obtain ⟨built, after, builtToo, afterToo, ran, ranToo, requests, engines⟩ :=
    stocked.exists_run_builders staged silent silentToo alike held
  rw [ran, ranToo]
  exact ⟨.ok requests, engines⟩

theorem simulates_signOffHooks (stocked : Stocked own left right) :
    (Workflow.signOffHooks 0 (Workflow.works left.workflow.hooks.signOff) ⟨.empty, none⟩ :
        Proc (Engine (StockScope Act Ρ) Act) Workflow.Farewell).Simulates
      (Engine.Alike (left.Twins right)) Workflow.Farewell.Alike
      (Workflow.signOffHooks 0 (Workflow.works right.workflow.hooks.signOff) ⟨.empty, none⟩ :
        Proc (Engine (StockScope Act Ρ) Act) Workflow.Farewell) := by
  have silent : ∀ position request,
      (Invocation.signOff position request : Invocation Act).sent? = none := fun _ _ => rfl
  rw [Workflow.works_signOff, Workflow.works_signOff]
  intro first second held
  obtain ⟨built, after, builtToo, afterToo, ran, ranToo, requests, engines⟩ :=
    stocked.exists_run_builders rfl silent silent (.refl .empty) held
  rw [Workflow.run_signOffHooks none ran, Workflow.run_signOffHooks none ranToo]
  exact ⟨.ok ⟨requests, rfl⟩, engines⟩

/-! ### Other hooks -/

theorem hooks_alike (stocked : Stocked own left right) {stage : Stage}
    (other : stage.builds = false) :
    List.Forall₂ (Hook.Alike (left.Twins right))
      ((left.workflow.hooks.stage stage).map Installed.work)
      ((right.workflow.hooks.stage stage).map Installed.work) := by
  have alone : ∀ key, key ≠ CatalogKey.soloist stage →
      ∀ hook ∈ left.hooksOf key, hook.stage ≠ stage := by
    rintro key apart hook member rfl
    unfold hooksOf at member
    rw [stocked.stock] at member
    exact apart (CatalogKey.eq_soloist_of_mem member other)
  have same := stocked.reordered.items_eq alone
  rw [stocked.reordered.settled.works_stage, stocked.reordered.otherSettled.works_stage, ← same,
    List.forall₂_map_left_iff, List.forall₂_map_right_iff, List.forall₂_same]
  intro item member
  obtain ⟨registered, yielded, staged⟩ := mem_items.mp member
  unfold hooksOf at yielded
  rw [stocked.stock] at yielded
  have alike := CatalogKey.alike_of_mem yielded (staged ▸ other)
  apply alike.on (left.part_lawful _) (right.part_lawful _)
  · intro scope another twins
    exact twins.view registered
  · intro scope another view changed twins views
    exact twins.set views

end Stocked

end Blueprint

end GuidedLogin
