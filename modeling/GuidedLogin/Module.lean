/-
Modules: named bundles of hooks with a configuration. A module is a template;
every registration of it has a configuration of its own. The hooks of a
registration see that configuration, the shared values of their workflow, and
the world outside, and nothing else.
-/
import GuidedLogin.Hook

namespace GuidedLogin

structure Common (Act Ω : Type) where
  context : Context Act
  outside : Ω

structure View (C Act Ω : Type) where
  config : C
  common : Common Act Ω

namespace View

variable {C Act Ω : Type}

def commonPart : Part (View C Act Ω) (Common Act Ω) where
  get view := view.common
  set common view := { view with common := common }

def outsidePart : Part (View C Act Ω) Ω where
  get view := view.common.outside
  set outside view := { view with common := { view.common with outside := outside } }

def context (view : View C Act Ω) : Context Act := view.common.context

def withContext (view : View C Act Ω) (context : Context Act) : View C Act Ω :=
  { view with common := { view.common with context := context } }

end View

/-- A bundle of hooks. `fresh` makes the configuration of a new registration;
`setup` runs once for each when its workflow is built, and yields the hooks in
the order they are to be installed. -/
structure Module (C Act Ω : Type) where
  name : String
  fresh : C
  setup : View C Act Ω → List (Hook (View C Act Ω) Act) × View C Act Ω

def Module.ofHooks {C Act Ω : Type} (name : String) (fresh : C)
    (hooks : List (Hook (View C Act Ω) Act)) : Module C Act Ω :=
  ⟨name, fresh, fun view => (hooks, view)⟩

end GuidedLogin
