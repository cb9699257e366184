/-
Workflows built from settings. A workflow has the hooks of its registrations and
a transport; the engine around them keeps whether the initial hooks have run and
a trace of everything it has invoked. `build` runs the setup of every
registration once, in execution order.
-/
import GuidedLogin.Module
import GuidedLogin.Registry

namespace GuidedLogin

structure Scope {κ : Type} (Config : κ → Type) (Act Ω : Type) where
  configs : (key : κ) → Nat → Config key
  common : Common Act Ω

namespace Scope

variable {κ : Type} [DecidableEq κ] {Config : κ → Type} {Act Ω : Type}

def setConfig (configs : (key : κ) → Nat → Config key) (key : κ) (position : Nat)
    (config : Config key) : (key : κ) → Nat → Config key :=
  fun other index =>
    if same : key = other then
      if index = position then same ▸ config else configs other index
    else configs other index

def viewPart (key : κ) (position : Nat) : Part (Scope Config Act Ω) (View (Config key) Act Ω) where
  get scope := ⟨scope.configs key position, scope.common⟩
  set view scope := ⟨setConfig scope.configs key position view.config, view.common⟩

omit [DecidableEq κ] in
def commonPart : Part (Scope Config Act Ω) (Common Act Ω) where
  get scope := scope.common
  set common scope := { scope with common := common }

omit [DecidableEq κ] in
def outsidePart : Part (Scope Config Act Ω) Ω where
  get scope := scope.common.outside
  set outside scope := { scope with common := { scope.common with outside := outside } }

end Scope

inductive Invocation (Act : Type) where
  | init (position : Nat)
  | adapter (position : Nat) (request : Request)
  | start (position : Nat) (request : Request)
  | next (position : Nat) (node : ContinueNode Act) (request : Request)
  | transport (request : Request)
  | response (position : Nat) (response : Response)
  | transform (position : Nat) (response : Response)
  | node (position : Nat) (node : Node Act)
  | success (position : Nat) (node : SuccessNode Act)
  | signOff (position : Nat) (request : Request)

/-- The state of a workflow: that of its hooks, whether the initial hooks have all
succeeded, and everything invoked so far, oldest first. -/
structure Engine (S Act : Type) where
  inner : S
  initialized : Bool
  trace : List (Invocation Act)

def Engine.innerPart {S Act : Type} : Part (Engine S Act) S where
  get engine := engine.inner
  set inner engine := { engine with inner := inner }

structure Workflow (κ S Act : Type) where
  id : InstanceId
  name : String
  modules : List (RegistrationInfo κ)
  timeout : Elapsed
  hooks : HookTable S Act
  transport : Request → Proc S Response
  adapter? : Act → Option (Request → Proc S Request)

namespace Workflow

variable {κ : Type} [DecidableEq κ] {Config : κ → Type} {Act Ω : Type}

structure Building {κ : Type} (Config : κ → Type) (Act Ω : Type) where
  hooks : HookTable (Scope Config Act Ω) Act
  scope : Scope Config Act Ω

/-- Runs the setup of the registration at a position and installs its hooks. -/
def installAt (modules : (key : κ) → Module (Config key) Act Ω) (position : Nat) (key : κ)
    (building : Building Config Act Ω) : Building Config Act Ω :=
  let part : Part (Scope Config Act Ω) (View (Config key) Act Ω) := Scope.viewPart key position
  let (hooks, view) := (modules key).setup (part.get building.scope)
  { hooks := building.hooks.installAll position (hooks.map (Hook.on part))
    scope := part.set view building.scope }

def installFrom (modules : (key : κ) → Module (Config key) Act Ω) :
    Nat → List (Registration Config) → Building Config Act Ω → Building Config Act Ω
  | _, [], building => building
  | position, registration :: rest, building =>
      installFrom modules (position + 1) rest
        (installAt modules position registration.key building)

/-- The configurations of registrations by position; elsewhere fresh ones. -/
def configsOf (modules : (key : κ) → Module (Config key) Act Ω)
    (registrations : List (Registration Config)) (key : κ) (position : Nat) : Config key :=
  ((registrations[position]?).bind (Registry.configAt? key)).getD (modules key).fresh

/-- Builds a workflow: the workflow and the state it starts from. -/
def build (modules : (key : κ) → Module (Config key) Act Ω) (settings : Settings Config)
    (id : InstanceId) (transport : Request → Proc Ω Response)
    (adapter? : Act → Option (Request → Proc (Common Act Ω) Request)) (outside : Ω) :
    Workflow κ (Scope Config Act Ω) Act × Engine (Scope Config Act Ω) Act :=
  let registrations := Registry.ordered settings.registrations
  let start : Scope Config Act Ω := ⟨configsOf modules registrations, ⟨∅, outside⟩⟩
  let built := installFrom modules 0 registrations ⟨.empty, start⟩
  ({ id := id
     name := settings.name
     modules := registrations.map Registration.info
     timeout := settings.timeout
     hooks := built.hooks
     transport := fun request => (transport request).on Scope.outsidePart
     adapter? := fun action => (adapter? action).map fun adapt =>
       fun request => (adapt request).on Scope.commonPart },
   ⟨built.scope, false, []⟩)

end Workflow

end GuidedLogin
