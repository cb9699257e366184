/-
The module that points a flow at its server: the target, the method and the query
parameters of the first request, and the target of the sign-off.
-/
import GuidedLogin.Module

namespace GuidedLogin

structure EndpointConfig where
  startUrl : Option String
  startMethod : Option String
  parameters : List (String × String)
  signOffUrl : Option String
  deriving DecidableEq, Repr

namespace EndpointConfig

def empty : EndpointConfig := ⟨none, none, [], none⟩

def target (url : Option String) (request : Request) : Except Error Request :=
  match url with
  | some url => request.withUrlText url
  | none => .ok request

def withStartMethod (config : EndpointConfig) (request : Request) : Request :=
  match config.startMethod with
  | some method => request.withMethod method
  | none => request

def applyStart (config : EndpointConfig) (request : Request) : Except Error Request :=
  (target config.startUrl request).map fun request =>
    config.parameters.foldl (fun request pair => request.withParameter pair.1 pair.2)
      (config.withStartMethod request)

def applySignOff (config : EndpointConfig) (request : Request) : Except Error Request :=
  target config.signOffUrl request

end EndpointConfig

variable {Act Ω : Type}

/-- Work on the configuration of a registration that may fail and changes nothing. -/
def View.consult {C α : Type} (question : C → Except Error α) : Proc (View C Act Ω) α :=
  .read fun view => Proc.ofExcept (question view.config)

def Module.endpoint : Module EndpointConfig Act Ω :=
  .ofHooks "endpoint" .empty
    [.start fun request => View.consult fun config => config.applyStart request,
     .signOff fun request => View.consult fun config => config.applySignOff request]

end GuidedLogin
