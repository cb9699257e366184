/-
The module that makes nodes of JSON responses. A body that reports an error is an
error, an object with the key of success is a success, any other object is a step
that is posted to the link it carries. The last step is remembered among the shared
values, so that an error that follows can be retried from it; a new flow forgets it.
-/
import GuidedLogin.Json.Pointer
import GuidedLogin.Module

namespace GuidedLogin

def lastContinueKey : String := "authflow.json_transform.last_continue"

structure JsonTransformConfig (Act Ω : Type) where
  successKey : String
  messageKey : String
  nextLink : String
  actions : Option (JsonObject → Ω → List Act × Ω)

namespace JsonTransformConfig

variable {Act Ω : Type}

def standard : JsonTransformConfig Act Ω := ⟨"session", "message", "/_links/next/href", none⟩

def errorNode (config : JsonTransformConfig Act Ω) (response : Response) (body : Option JsonObject) :
    Node Act :=
  let message := (body.bind (·.find? config.messageKey)).bind Json.asString?
  match body, message with
  | some body, some message => .error ⟨body, message, none⟩
  | _, _ => .failure (.api response.status response.textLossy)

/-- The address of a link, seen from the request that a response answers. -/
def resolve (response : Response) (link : String) : Except Error Url :=
  let found :=
    match response.request.url with
    | some base => base.join link
    | none => Url.parse link
  found.mapError fun fault => .invalidResponse (.badLink link fault)

/-- The request that a step is submitted with, if it carries a link. -/
def template (config : JsonTransformConfig Act Ω) (response : Response) (body : JsonObject) :
    Except Error Request :=
  match ((Json.ofObject body).pointer? config.nextLink).bind Json.asString? with
  | none => .ok .empty
  | some link =>
      (resolve response link).map fun url => (Request.empty.withUrl url).withJson .emptyObject

def stepActions (config : JsonTransformConfig Act Ω) (body : JsonObject) (outside : Ω) :
    List Act × Ω :=
  match config.actions with
  | none => ([], outside)
  | some actions => actions body outside

def stepNode (config : JsonTransformConfig Act Ω) (response : Response) (body : JsonObject)
    (outside : Ω) : Except Error (Node Act × Ω) :=
  (config.template response body).map fun template =>
    let (actions, outside) := config.stepActions body outside
    (.continuation (((ContinueNode.ofInput body).withTemplate template).withActions actions),
      outside)

def transform (config : JsonTransformConfig Act Ω) (response : Response) (outside : Ω) :
    Except Error (Option (Node Act) × Ω) :=
  let body := response.json.toOption.bind Json.asObject?
  if 400 ≤ response.status then .ok (some (config.errorNode response body), outside)
  else
    match body with
    | none => .ok (none, outside)
    | some body =>
        if !response.isSuccess then .ok (none, outside)
        else
          match body.find? config.successKey with
          | some session => .ok (some (.success ⟨body, some ⟨.json, session⟩⟩), outside)
          | none =>
              (config.stepNode response body outside).map fun made => (some made.1, made.2)

end JsonTransformConfig

namespace JsonTransform

variable {Act Ω : Type}

abbrev Sight (Act Ω : Type) : Type := View (JsonTransformConfig Act Ω) Act Ω

def forget : Proc (Sight Act Ω) Unit :=
  Proc.modify fun view => view.withContext (view.context.erase lastContinueKey)

def transform (response : Response) : Proc (Sight Act Ω) (Option (Node Act)) :=
  Proc.tryStep fun view =>
    (view.config.transform response view.common.outside).map fun made =>
      (made.1, View.outsidePart.set made.2 view)

/-- Remembers a step, and lets an error without a way to try again be retried from the
last one. -/
def linkRetry (node : Node Act) : Proc (Sight Act Ω) (Node Act) :=
  match node with
  | .continuation step => do
      Proc.modify fun view => view.withContext (view.context.set lastContinueKey .step step)
      pure node
  | .error error =>
      if error.retry.isSome then .done node
      else do
        let view ← Proc.state
        match ← Proc.ofExcept (view.context.get lastContinueKey .step) with
        | some step => pure (.error { error with retry := some step })
        | none => pure node
  | _ => .done node

end JsonTransform

def Module.jsonTransform {Act Ω : Type} : Module (JsonTransformConfig Act Ω) Act Ω :=
  .ofHooks "json_transform" .standard
    [.start fun request => do JsonTransform.forget; pure request,
     .transform JsonTransform.transform,
     .node JsonTransform.linkRetry,
     .success fun node => do JsonTransform.forget; pure node]

end GuidedLogin
