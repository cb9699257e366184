/-
The module that adds fixed headers to every request of a flow.
-/
import GuidedLogin.Module

namespace GuidedLogin

structure CustomHeaderConfig where
  headers : Headers
  deriving DecidableEq, Repr

def CustomHeaderConfig.apply (config : CustomHeaderConfig) (request : Request) : Request :=
  config.headers.foldl (fun request header => request.withHeader header.1 header.2) request

def Module.customHeader {Act Ω : Type} : Module CustomHeaderConfig Act Ω :=
  .ofHooks "custom_header" ⟨[]⟩
    [.start fun request => .read fun view => .done (view.config.apply request),
     .next fun _ request => .read fun view => .done (view.config.apply request)]

end GuidedLogin
