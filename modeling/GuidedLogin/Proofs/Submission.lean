/-
What a continuation submits. Its adapters pass a request on up to the first that fails.
Where each of them sets a field, the body is an object in which the last field of a name
has its value and the template keeps the rest.
-/
import GuidedLogin.Proofs.Calls

namespace GuidedLogin

/-- The value of a field of a body, none unless it is a JSON object. -/
def Body.field? (body : Body) (name : String) : Option Json :=
  match body with
  | .json (.object entries) => (NameMap.ofList entries).find? name
  | _ => none

private theorem Body.field?_ofObject (object : JsonObject) (name : String) :
    (Body.json (.ofObject object)).field? name = object.find? name := by
  change (NameMap.ofList object.entries).find? name = _
  rw [NameMap.ofList_entries]

namespace Request

variable (request : Request) (fields : List (String × Json))

def withJsonFields : Request :=
  fields.foldl (fun request field => request.withJsonField field.1 field.2) request

private theorem find?_jsonFields (name : String) :
    request.jsonFields.find? name = request.body.field? name := by
  unfold jsonFields Body.field?
  cases request.body with
  | empty => rfl
  | form fields => rfl
  | json value => cases value <;> rfl

private theorem jsonFields_withJsonField (name : String) (value : Json) :
    (request.withJsonField name value).jsonFields = request.jsonFields.insert name value :=
  NameMap.ofList_entries _

/-- Fields that are set one after another are set together, a later one in place of an
earlier one. -/
theorem withJsonFields_cons (field : String × Json) :
    request.withJsonFields (field :: fields) =
      { request with
        body := .json (.ofObject (request.jsonFields.insertAll (field :: fields))) } := by
  induction fields generalizing request field with
  | nil => rfl
  | cons next rest ih =>
      have first : request.withJsonFields (field :: next :: rest) =
          (request.withJsonField field.1 field.2).withJsonFields (next :: rest) := rfl
      rw [first, ih, jsonFields_withJsonField]
      rfl

end Request

structure Submitted (template : Request) (fields : List (String × Json)) (built : Request) :
    Prop where
  kept : built = { template with body := built.body }
  bare : fields = [] → built.body = template.body
  filled : fields ≠ [] → ∃ object, built.body = .json (.ofObject object) ∧
    ∀ name, object.find? name =
      (NameMap.findEntry name fields.reverse).or (template.body.field? name)

theorem submitted_withJsonFields (template : Request) (fields : List (String × Json)) :
    Submitted template fields (template.withJsonFields fields) := by
  cases fields with
  | nil => exact ⟨rfl, fun _ => rfl, fun filled => absurd rfl filled⟩
  | cons field rest =>
      have set := template.withJsonFields_cons rest field
      refine ⟨?_, ?_, ?_⟩
      · rw [set]
      · intro bare
        cases bare
      · intro _
        refine ⟨template.jsonFields.insertAll (field :: rest), ?_, ?_⟩
        · rw [set]
        · intro name
          rw [NameMap.find?_insertAll_reverse, template.find?_jsonFields]

variable {κ S Act : Type}

structure FormField (S : Type) where
  name : String
  value : S → Json

def FormField.told (field : FormField S) (state : S) : String × Json :=
  (field.name, field.value state)

def ContinueNode.told (node : ContinueNode Act) (field? : Act → Option (FormField S))
    (state : S) : List (String × Json) :=
  (node.actions.filterMap field?).map (·.told state)

namespace Workflow

variable {β : Type} {given : Nat → β → Invocation Act} {works : List (β → Proc S β)} {first : Nat}
variable {value reached : β} {engine after : Engine S Act} {fault : Fault}

inductive Passes (given : Nat → β → Invocation Act) :
    Nat → List (β → Proc S β) → β → S → List (Invocation Act) → β → S → Prop where
  | idle {first : Nat} {value : β} {state : S} : Passes given first [] value state [] value state
  | pass {first : Nat} {work : β → Proc S β} {rest : List (β → Proc S β)} {value built reached : β}
      {state between after : S} {made : List (Invocation Act)}
      (passed : (work value).run state = (.ok built, between))
      (onward : Passes given (first + 1) rest built between made reached after) :
      Passes given first (work :: rest) value state (given first value :: made) reached after

variable {work : β → Proc S β} {rest : List (β → Proc S β)} {made : List (Invocation Act)}
variable {built : β} {state between left : S}

theorem not_passes_of_failed (failed : (work value).run state = (.error fault, between)) :
    ¬ Passes given first (work :: rest) value state made reached left := by
  rintro (_ | ⟨passed, _⟩)
  rw [failed] at passed
  cases passed

theorem passes_cons_iff (ended : (work value).run state = (.ok built, between)) :
    Passes given first (work :: rest) value state made reached left ↔
      ∃ more, made = given first value :: more ∧
        Passes given (first + 1) rest built between more reached left := by
  constructor
  · rintro (_ | ⟨passed, onward⟩)
    rw [ended] at passed
    cases passed
    exact ⟨_, rfl, onward⟩
  · rintro ⟨more, rfl, onward⟩
    exact .pass ended onward

/-- A stage comes to a value if all of its works pass one on. -/
theorem run_foldStage_ok_iff :
    (foldStage given first works value).run engine = (.ok reached, after) ↔
      ∃ made state, Passes given first works value engine.inner made reached state ∧
        after = ⟨state, engine.initialized, engine.trace ++ made⟩ := by
  induction works generalizing first value engine with
  | nil =>
      constructor
      · intro ran
        cases ran
        exact ⟨[], after.inner, .idle, by rw [List.append_nil]⟩
      · rintro ⟨made, state, passes, rfl⟩
        cases passes
        rw [List.append_nil]
        rfl
  | cons work rest ih =>
      rw [foldStage, Proc.run_bind, run_invoke]
      rcases ended : (work value).run engine.inner with ⟨fault | built, between⟩
      · constructor
        · intro ran
          cases ran
        · rintro ⟨made, state, passes, _⟩
          exact absurd passes (not_passes_of_failed ended)
      · dsimp only
        rw [ih]
        simp only [passes_cons_iff ended]
        constructor
        · rintro ⟨more, state, onward, rfl⟩
          exact ⟨_, state, ⟨more, rfl, onward⟩, by simp⟩
        · rintro ⟨_, state, ⟨more, rfl, onward⟩, rfl⟩
          exact ⟨more, state, onward, by simp⟩

/-- A stage comes to the fault of the first of its works that fails, and invokes none
behind it. -/
theorem run_foldStage_error_iff :
    (foldStage given first works value).run engine = (.error fault, after) ↔
      ∃ front work back made reached state left, works = front ++ work :: back ∧
        Passes given first front value engine.inner made reached state ∧
        (work reached).run state = (.error fault, left) ∧
        after = ⟨left, engine.initialized,
          engine.trace ++ (made ++ [given (first + front.length) reached])⟩ := by
  induction works generalizing first value engine with
  | nil =>
      constructor
      · intro ran
        cases ran
      · rintro ⟨front, work, back, _, _, _, _, same, _⟩
        simp at same
  | cons head rest ih =>
      rw [foldStage, Proc.run_bind, run_invoke]
      rcases ended : (head value).run engine.inner with ⟨cause | built, between⟩
      · constructor
        · intro ran
          cases ran
          exact ⟨[], head, rest, [], value, engine.inner, between, rfl, .idle, ended, rfl⟩
        · rintro ⟨front, work, back, made, reached, state, left, same, passes, failed, rfl⟩
          cases front with
          | nil =>
              cases same
              cases passes
              rw [ended] at failed
              cases failed
              rfl
          | cons _ _ =>
              cases same
              exact absurd passes (not_passes_of_failed ended)
      · dsimp only
        rw [ih]
        constructor
        · rintro ⟨front, work, back, made, reached, state, left, rfl, onward, failed, rfl⟩
          refine ⟨head :: front, work, back, given first value :: made, reached, state, left, rfl,
            .pass ended onward, failed, ?_⟩
          simp [Nat.add_assoc, Nat.add_comm 1]
        · rintro ⟨front, work, back, made, reached, state, left, same, passes, failed, rfl⟩
          cases front with
          | nil =>
              cases same
              cases passes
              rw [ended] at failed
              cases failed
          | cons _ front =>
              cases same
              obtain ⟨more, rfl, onward⟩ := (passes_cons_iff ended).mp passes
              refine ⟨front, work, back, more, reached, state, left, rfl, onward, failed, ?_⟩
              simp [Nat.add_assoc, Nat.add_comm 1]

/-- The actions of a workflow fill in a form: the adapter of an action with a field sets
that field and does nothing else, and an action without one has no adapter. -/
def Fills (workflow : Workflow κ S Act) (field? : Act → Option (FormField S))
    (actions : List Act) : Prop :=
  ∀ action ∈ actions,
    match field? action with
    | some field => ∃ adapt, workflow.adapter? action = some adapt ∧ ∀ request state,
        (adapt request).run state =
          (.ok (request.withJsonField field.name (field.value state)), state)
    | none => workflow.adapter? action = none

private theorem passes_of_fills {workflow : Workflow κ S Act} {field? : Act → Option (FormField S)}
    {actions : List Act} (fills : workflow.Fills field? actions) (first : Nat)
    (request : Request) (state : S) :
    ∃ made : List (Invocation Act),
      Passes Invocation.adapter first (actions.filterMap workflow.adapter?) request state made
        (request.withJsonFields ((actions.filterMap field?).map (·.told state))) state := by
  induction actions generalizing first request with
  | nil => exact ⟨[], .idle⟩
  | cons action rest ih =>
      have here := fills action List.mem_cons_self
      have onward : workflow.Fills field? rest := fun other member =>
        fills other (List.mem_cons_of_mem _ member)
      cases known : field? action with
      | none =>
          rw [known] at here
          rw [List.filterMap_cons_none here, List.filterMap_cons_none known]
          exact ih onward first request
      | some field =>
          rw [known] at here
          obtain ⟨adapt, adapted, sets⟩ := here
          rw [List.filterMap_cons_some adapted, List.filterMap_cons_some known, List.map_cons]
          obtain ⟨made, passes⟩ :=
            ih onward (first + 1) (request.withJsonField field.name (field.value state))
          exact ⟨_, .pass (sets request state) passes⟩

/-- What a continuation submits. If its actions fill in a form, it is the template with the
fields set, and submitted again with the same fields it is the same. In any case the
fault of the first adapter that fails is what it comes to, and no adapter behind it runs. -/
theorem submission_closed_form (workflow : Workflow κ S Act) (node : ContinueNode Act) :
    (∀ (field? : Act → Option (FormField S)) (engine : Engine S Act),
      workflow.Fills field? node.actions →
        ∃ built made,
          (workflow.submission node).run engine =
              (.ok built, ⟨engine.inner, engine.initialized, engine.trace ++ made⟩) ∧
            Submitted node.template (node.told field? engine.inner) built ∧
            ∀ (again : ContinueNode Act) (later : Engine S Act),
              again.actions = node.actions → again.template = node.template →
                again.told field? later.inner = node.told field? engine.inner →
                  ((workflow.submission again).run later).1 = .ok built) ∧
    (∀ (engine after : Engine S Act) (fault : Fault),
      (workflow.submission node).run engine = (.error fault, after) ↔
        ∃ front adapt back made reached state left,
          workflow.adapters node = front ++ adapt :: back ∧
            Passes Invocation.adapter 0 front node.template engine.inner made reached state ∧
            (adapt reached).run state = (.error fault, left) ∧
            after = ⟨left, engine.initialized,
              engine.trace ++ (made ++ [.adapter front.length reached])⟩) := by
  have filled : ∀ (field? : Act → Option (FormField S)) (again : ContinueNode Act)
      (later : Engine S Act), workflow.Fills field? again.actions → ∃ made,
        (workflow.submission again).run later =
          (.ok (again.template.withJsonFields (again.told field? later.inner)),
            ⟨later.inner, later.initialized, later.trace ++ made⟩) := by
    intro field? again later fills
    obtain ⟨made, passes⟩ := passes_of_fills fills 0 again.template later.inner
    exact ⟨made, run_foldStage_ok_iff.mpr ⟨made, later.inner, passes, rfl⟩⟩
  refine ⟨?_, ?_⟩
  · intro field? engine fills
    obtain ⟨made, ran⟩ := filled field? node engine fills
    refine ⟨_, made, ran, submitted_withJsonFields _ _, ?_⟩
    intro again later actions template told
    obtain ⟨_, reran⟩ := filled field? again later (actions ▸ fills)
    rw [reran, template, told]
  · intro engine after fault
    rw [submission, run_foldStage_error_iff]
    simp only [Nat.zero_add]

/-- A workflow whose actions are boxes, each with the name of a field, and labels. -/
def boxForm : Workflow Unit (Nat → Json) (Option (String × Nat)) where
  id := 7
  name := "boxes"
  modules := []
  timeout := .ofSeconds 1
  hooks := .empty
  transport _ := .throw .missingUrl
  adapter? := Option.map fun box request =>
    .read fun values => .done (request.withJsonField box.1 (values box.2))

def boxField? : Option (String × Nat) → Option (FormField (Nat → Json)) :=
  Option.map fun box => ⟨box.1, fun values => values box.2⟩

private theorem fills_boxForm (actions : List (Option (String × Nat))) :
    boxForm.Fills boxField? actions := by
  intro action _
  cases action with
  | none => rfl
  | some box => exact ⟨_, rfl, fun _ _ => rfl⟩

def boxStep : ContinueNode (Option (String × Nat)) where
  input := ∅
  actions := [some ("code", 0), none, some ("code", 1)]
  template := ⟨"PUT", none, [("page", "2")], [], .json (.object [("step", .string "code")])⟩
  owner := none

/-- The second box is sent and the field of the template too, and so they are from a step
that a workflow has taken up. -/
theorem submission_of_boxStep : ∃ built,
    ((boxForm.submission boxStep).run ⟨Json.ofNat, true, []⟩).1 = .ok built ∧
      ((boxForm.submission (boxStep.attach 7)).run ⟨Json.ofNat, false, []⟩).1 = .ok built ∧
      built.method = "PUT" ∧ built.body.field? "code" = some (.ofNat 1) ∧
      built.body.field? "step" = some (.string "code") := by
  obtain ⟨built, made, ran, submitted, again⟩ := (submission_closed_form boxForm boxStep).1
    boxField? ⟨Json.ofNat, true, []⟩ (fills_boxForm _)
  obtain ⟨object, filled, found⟩ :=
    submitted.filled (by simp [ContinueNode.told, boxStep, boxField?])
  have resent := again (boxStep.attach 7) ⟨Json.ofNat, false, []⟩ rfl rfl rfl
  refine ⟨built, by rw [ran], resent, ?_, ?_, ?_⟩
  · rw [submitted.kept]
    rfl
  · rw [filled, Body.field?_ofObject, found]
    rfl
  · rw [filled, Body.field?_ofObject, found]
    rfl

end Workflow

end GuidedLogin
