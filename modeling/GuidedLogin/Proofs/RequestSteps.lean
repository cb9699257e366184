/-
Requests built step by step. Each part of what steps build has a closed form in the list of
all steps (`Built`): the last step that sets the address or the method tells it, a header
stands unless a later step removes it, and the fields that are set behind the last whole
body are laid over that body.
-/
import GuidedLogin.Proofs.Submission
import GuidedLogin.Scenario.Script
import Mathlib.Data.List.DropRight
import Mathlib.Data.List.Induction

namespace GuidedLogin

namespace Request

inductive Step where
  | url (url : Url)
  | method (method : String)
  | parameter (name value : String)
  | header (name value : String)
  | cookie (name value : String)
  | withoutHeader (name : String)
  | json (value : Json)
  | form (fields : List (String × String))
  | jsonField (name : String) (value : Json)

def take (request : Request) : Step → Request
  | .url url => request.withUrl url
  | .method method => request.withMethod method
  | .parameter name value => request.withParameter name value
  | .header name value => request.withHeader name value
  | .cookie name value => request.withCookie name value
  | .withoutHeader name => request.withoutHeader name
  | .json value => request.withJson value
  | .form fields => request.withForm fields
  | .jsonField name value => request.withJsonField name value

def build (steps : List Step) : Request := steps.foldl take .empty

theorem build_append_singleton (steps : List Step) (step : Step) :
    build (steps ++ [step]) = (build steps).take step :=
  List.foldl_append

namespace Step

/-! ### What a step does to each part -/

def url? : Step → Option Url
  | .url target => some target
  | _ => none

/-- The method that a step sets; a whole body sets one too. -/
def method? : Step → Option String
  | .method verb => some verb
  | .json _ => some "POST"
  | .form _ => some "POST"
  | _ => none

def parameter? : Step → Option (String × String)
  | .parameter name value => some (name, value)
  | _ => none

def header? : Step → Option (String × String)
  | .header name value => some (name, value)
  | .cookie title value => some ("Cookie", title ++ "=" ++ value)
  | _ => none

def value? (name : String) : Step → Option String
  | .header other value => if Text.sameFolded other name then some value else none
  | .cookie title value =>
      if Text.sameFolded "Cookie" name then some (title ++ "=" ++ value) else none
  | _ => none

def spares (name : String) : Step → Bool
  | .withoutHeader removed => !Text.sameFolded removed name
  | _ => true

def body? : Step → Option Body
  | .json value => some (.json value)
  | .form fields => some (.form fields)
  | _ => none

def field? : Step → Option (String × Json)
  | .jsonField name value => some (name, value)
  | _ => none

end Step

/-- The headers that steps add and that no later one of them removes. -/
def standing : List Step → Headers
  | [] => []
  | step :: later =>
      step.header?.toList.filter (fun header => later.all (Step.spares header.1)) ++
        standing later

def wholeBody (steps : List Step) : Body := ((steps.filterMap Step.body?).getLast?).getD .empty

/-- The fields that steps set behind the last whole body. -/
def fieldsBehind (steps : List Step) : List (String × Json) :=
  (steps.rtakeWhile fun step => step.body?.isNone).filterMap Step.field?

structure Built (steps : List Step) (request : Request) : Prop where
  url : request.url = (steps.filterMap Step.url?).getLast?
  method : request.method = ((steps.filterMap Step.method?).getLast?).getD "GET"
  parameters : request.parameters = steps.filterMap Step.parameter?
  values : ∀ name, request.headers.values name =
    (steps.rtakeWhile (Step.spares name)).filterMap (Step.value? name)
  headers : request.headers = standing steps
  kept : ∀ before after, before ++ after = steps →
    (build before).headers.filter (fun header => after.all (Step.spares header.1)) <+:
      request.headers
  bare : fieldsBehind steps = [] → request.body = wholeBody steps
  filled : fieldsBehind steps ≠ [] → ∃ object, request.body = .json (.ofObject object) ∧
    ∀ name, object.find? name =
      (NameMap.findEntry name (fieldsBehind steps).reverse).or ((wholeBody steps).field? name)

/-! ### Single parts -/

theorem getLast?_filterMap_append_singleton {α β : Type} (told : α → Option β) (items : List α)
    (item : α) :
    ((items ++ [item]).filterMap told).getLast? = (told item).or (items.filterMap told).getLast? := by
  cases known : told item with
  | none => simp [List.filterMap_append, known]
  | some value => simp [List.filterMap_append, known]

private theorem url_take (request : Request) (step : Step) :
    (request.take step).url = step.url?.or request.url := by
  cases step <;> rfl

private theorem url_build (steps : List Step) :
    (build steps).url = (steps.filterMap Step.url?).getLast? := by
  induction steps using List.reverseRecOn with
  | nil => rfl
  | append_singleton steps step ih =>
      rw [build_append_singleton, url_take, ih, getLast?_filterMap_append_singleton]

private theorem method_take (request : Request) (step : Step) :
    (request.take step).method = step.method?.getD request.method := by
  cases step <;> rfl

private theorem method_build (steps : List Step) :
    (build steps).method = ((steps.filterMap Step.method?).getLast?).getD "GET" := by
  induction steps using List.reverseRecOn with
  | nil => rfl
  | append_singleton steps step ih =>
      rw [build_append_singleton, method_take, ih, getLast?_filterMap_append_singleton]
      cases step.method? <;> rfl

private theorem parameters_take (request : Request) (step : Step) :
    (request.take step).parameters = request.parameters ++ step.parameter?.toList := by
  cases step <;> first | rfl | exact (List.append_nil _).symm

private theorem parameters_build (steps : List Step) :
    (build steps).parameters = steps.filterMap Step.parameter? := by
  induction steps using List.reverseRecOn with
  | nil => rfl
  | append_singleton steps step ih =>
      rw [build_append_singleton, parameters_take, ih, List.filterMap_append]
      cases known : step.parameter? <;> simp [known]

/-! ### Headers -/

private theorem headers_take (request : Request) (step : Step) :
    (request.take step).headers =
      request.headers.filter (fun header => step.spares header.1) ++ step.header?.toList := by
  cases step with
  | withoutHeader name =>
      simp [take, withoutHeader, Headers.without, Step.spares, Step.header?,
        Text.sameFolded_comm name]
  | _ => simp [take, withUrl, withMethod, withParameter, withHeader, withCookie, withJson,
      withForm, withJsonField, cookieText, Step.spares, Step.header?]

/-- Steps remove headers from those there are, and add those that they do not remove again. -/
theorem headers_foldl_take (request : Request) (steps : List Step) :
    (steps.foldl take request).headers =
      request.headers.filter (fun header => steps.all (Step.spares header.1)) ++
        standing steps := by
  induction steps generalizing request with
  | nil => simp [standing]
  | cons step later ih =>
      rw [List.foldl_cons, ih, headers_take, List.filter_append, List.filter_filter,
        List.append_assoc]
      simp [standing, Bool.and_comm]

private theorem headers_build (steps : List Step) : (build steps).headers = standing steps := by
  unfold build
  rw [headers_foldl_take]
  rfl

private theorem values_take (request : Request) (step : Step) (name : String) :
    (request.take step).headers.values name =
      (if step.spares name then request.headers.values name else []) ++
        (step.value? name).toList := by
  cases step with
  | withoutHeader removed =>
      change (request.headers.without removed).values name = _
      rw [Headers.values_without]
      cases same : Text.sameFolded removed name <;> simp [Step.spares, Step.value?, same]
  | header other value =>
      change Headers.values (request.headers ++ [(other, value)]) name = _
      rw [Headers.values_append]
      cases same : Text.sameFolded other name <;>
        simp [Headers.values, Step.spares, Step.value?, same]
  | cookie title value =>
      change Headers.values (request.headers ++ [("Cookie", title ++ "=" ++ value)]) name = _
      rw [Headers.values_append]
      cases same : Text.sameFolded "Cookie" name <;>
        simp [Headers.values, Step.spares, Step.value?, same]
  | _ => exact (List.append_nil _).symm

private theorem values_build (steps : List Step) (name : String) :
    (build steps).headers.values name =
      (steps.rtakeWhile (Step.spares name)).filterMap (Step.value? name) := by
  induction steps using List.reverseRecOn with
  | nil => rfl
  | append_singleton steps step ih =>
      rw [build_append_singleton, values_take, List.rtakeWhile_concat]
      cases spared : step.spares name with
      | true =>
          rw [if_pos rfl, if_pos rfl, ih, List.filterMap_append]
          cases known : step.value? name <;> simp [known]
      | false =>
          cases step with
          | withoutHeader removed => rfl
          | _ => cases spared

/-! ### The body -/

private theorem body_take_of_body {request : Request} {step : Step} {body : Body}
    (told : step.body? = some body) : (request.take step).body = body := by
  cases step <;> cases told <;> rfl

private theorem body_take_of_field {request : Request} {step : Step} {field : String × Json}
    (told : step.field? = some field) :
    (request.take step).body = (request.withJsonField field.1 field.2).body := by
  cases step with
  | jsonField name value =>
      cases told
      rfl
  | _ => cases told

private theorem body_take_of_none {request : Request} {step : Step} (whole : step.body? = none)
    (field : step.field? = none) : (request.take step).body = request.body := by
  cases step with
  | json value => cases whole
  | form fields => cases whole
  | jsonField name value => cases field
  | _ => rfl

private theorem body_withJsonField_congr {request other : Request}
    (same : request.body = other.body)
    (name : String) (value : Json) :
    (request.withJsonField name value).body = (other.withJsonField name value).body := by
  unfold withJsonField jsonFields
  rw [same]

private theorem withJsonFields_append_singleton (request : Request) (fields : List (String × Json))
    (field : String × Json) :
    request.withJsonFields (fields ++ [field]) =
      (request.withJsonFields fields).withJsonField field.1 field.2 :=
  List.foldl_append

private theorem body_build (steps : List Step) :
    (build steps).body =
      ({ Request.empty with body := wholeBody steps }.withJsonFields (fieldsBehind steps)).body := by
  induction steps using List.reverseRecOn with
  | nil => rfl
  | append_singleton steps step ih =>
      rw [build_append_singleton]
      unfold wholeBody fieldsBehind at ih ⊢
      rw [getLast?_filterMap_append_singleton, List.rtakeWhile_concat]
      cases whole : step.body? with
      | some body =>
          rw [body_take_of_body whole]
          rfl
      | none =>
          simp only [Option.isNone_none, if_true, Option.none_or, List.filterMap_append]
          cases field : step.field? with
          | none =>
              rw [body_take_of_none whole field, ih]
              simp [field]
          | some field =>
              rw [body_take_of_field field, body_withJsonField_congr ih]
              simp [field, withJsonFields_append_singleton]

/-- Whatever steps are taken, every part of the request has its closed form. -/
theorem built_build (steps : List Step) : Built steps (build steps) := by
  have submitted := submitted_withJsonFields { Request.empty with body := wholeBody steps }
    (fieldsBehind steps)
  refine ⟨url_build steps, method_build steps, parameters_build steps, values_build steps,
    headers_build steps, ?_, ?_, ?_⟩
  · intro before after same
    subst same
    unfold build
    rw [List.foldl_append, headers_foldl_take (before.foldl take .empty)]
    exact List.prefix_append _ _
  · intro bare
    rw [body_build]
    exact submitted.bare bare
  · intro filled
    rw [body_build]
    exact submitted.filled filled

example : (build [.cookie "a" "1", .withoutHeader "COOKIE", .header "cookie" "b=2",
    .withoutHeader "Accept", .cookie "c" "3"]).headers.values "Cookie" = ["b=2", "c=3"] := by
  decide

end Request

namespace Scenario.RequestStep

/-- The step that a scripted one is; there is none for an address that does not parse, and
none that starts over. -/
def step? : RequestStep → Option Request.Step
  | .url text => (Url.parse text).toOption.map .url
  | .method name => some (.method name)
  | .parameter name value => some (.parameter name value)
  | .header name value => some (.header name value)
  | .cookie name value => some (.cookie name value)
  | .withoutHeader name => some (.withoutHeader name)
  | .json value => some (.json value)
  | .form fields => some (.form fields)
  | .jsonField name value => some (.jsonField name value)
  | .reset => none

private theorem apply_of_step? (request : Request) {scripted : RequestStep} {step : Request.Step}
    (same : scripted.step? = some step) : scripted.apply request = .ok (request.take step) := by
  cases scripted with
  | url text =>
      change (Url.parse text).toOption.map Request.Step.url = some step at same
      cases parsed : Url.parse text with
      | error fault =>
          rw [parsed] at same
          cases same
      | ok target =>
          rw [parsed] at same
          cases same
          simp [apply, Request.withUrlText, parsed, Request.take]
  | _ => cases same <;> rfl

/-- Scripted steps build what the steps that they are do. -/
theorem build_of_steps {scripted : List RequestStep} {steps : List Request.Step}
    (same : List.Forall₂ (fun scripted step => scripted.step? = some step) scripted steps) :
    build scripted = .ok (Request.build steps) := by
  unfold build applyAll Request.build
  generalize Request.empty = request
  induction same generalizing request with
  | nil => rfl
  | cons here rest ih =>
      rw [List.foldlM_cons, apply_of_step? request here]
      exact ih (request.take _)

end Scenario.RequestStep

end GuidedLogin
