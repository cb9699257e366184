/-
Registrations of modules, and what registering a module again does. Modules are
told apart by a key. Registrations run in ascending priority, those of one
priority in the order of registration.
-/
import GuidedLogin.Elapsed

namespace GuidedLogin

/-- What registering a module that is registered already does: change the
configuration there is, add a registration of its own, or nothing. -/
inductive OverrideMode where
  | replace
  | append
  | ignore
  deriving DecidableEq, Repr

structure RegistrationOptions where
  priority : Option Int
  mode : OverrideMode
  deriving DecidableEq, Repr

def defaultPriority : Int := 10

structure Registration {κ : Type} (Config : κ → Type) where
  key : κ
  config : Config key
  priority : Int
  mode : OverrideMode

structure RegistrationInfo (κ : Type) where
  key : κ
  priority : Int
  mode : OverrideMode
  deriving DecidableEq, Repr

def Registration.info {κ : Type} {Config : κ → Type} (registration : Registration Config) :
    RegistrationInfo κ :=
  ⟨registration.key, registration.priority, registration.mode⟩

structure Settings {κ : Type} (Config : κ → Type) where
  name : String
  registrations : List (Registration Config)
  timeout : Elapsed

namespace Registry

variable {κ : Type} [DecidableEq κ] {Config : κ → Type}

def reconfigure {key : κ} (block : Config key → Config key) :
    (registration : Registration Config) → registration.key = key → Registration Config
  | ⟨_, config, priority, mode⟩, same =>
      ⟨key, block (same ▸ config), priority, mode⟩

/-- Applies a block to the first registration that a replacement changes, if any. Those that
were appended are left alone. -/
def replaceFirst (key : κ) (block : Config key → Config key) :
    List (Registration Config) → Option (List (Registration Config))
  | [] => none
  | registration :: rest =>
      if same : registration.key = key then
        if registration.mode = .append then
          (replaceFirst key block rest).map (registration :: ·)
        else some (reconfigure block registration same :: rest)
      else (replaceFirst key block rest).map (registration :: ·)

def add (fresh : (key : κ) → Config key) (registrations : List (Registration Config)) (key : κ)
    (options : RegistrationOptions) (block : Config key → Config key) :
    List (Registration Config) :=
  registrations ++
    [⟨key, block (fresh key), options.priority.getD defaultPriority, options.mode⟩]

def register (fresh : (key : κ) → Config key) (registrations : List (Registration Config))
    (key : κ) (options : RegistrationOptions) (block : Config key → Config key) :
    List (Registration Config) :=
  match options.mode with
  | .replace =>
      (replaceFirst key block registrations).getD (add fresh registrations key options block)
  | .ignore =>
      if registrations.any (fun registration => registration.key = key) then registrations
      else add fresh registrations key options block
  | .append => add fresh registrations key options block

/-- Places a registration in front of those of its priority and above. -/
def place (registration : Registration Config) :
    List (Registration Config) → List (Registration Config)
  | [] => [registration]
  | head :: tail =>
      if registration.priority ≤ head.priority then registration :: head :: tail
      else head :: place registration tail

/-- The order of execution. It is the one in which registrations are listed, and also the one
in which they are taken over by the workflow that is built of them. -/
def ordered (registrations : List (Registration Config)) : List (Registration Config) :=
  registrations.foldr place []

def configAt? (key : κ) (registration : Registration Config) : Option (Config key) :=
  if same : registration.key = key then some (same ▸ registration.config) else none

/-- The configuration that a later replacement of a module would change. -/
def configOf? (registrations : List (Registration Config)) (key : κ) : Option (Config key) :=
  (registrations.filter (fun registration => registration.mode ≠ .append)).findSome? (configAt? key)

def configsOf (registrations : List (Registration Config)) (key : κ) : List (Config key) :=
  (ordered registrations).filterMap (configAt? key)

end Registry

namespace Settings

variable {κ : Type} [DecidableEq κ] {Config : κ → Type}

def empty : Settings Config := ⟨"workflow", [], .ofSeconds 15⟩

def register (settings : Settings Config) (fresh : (key : κ) → Config key) (key : κ)
    (options : RegistrationOptions) (block : Config key → Config key) : Settings Config :=
  { settings with
    registrations := Registry.register fresh settings.registrations key options block }

def infos (settings : Settings Config) : List (RegistrationInfo κ) :=
  (Registry.ordered settings.registrations).map Registration.info

end Settings

end GuidedLogin
