/-
The module that keeps the cookies of a server across the turns of a flow, and those
named in its configuration across workflows. The jar is a shared value; the cookies
to persist are kept in a storage as the text of one JSON object.
-/
import GuidedLogin.Module
import GuidedLogin.Storage
import GuidedLogin.Text.Blank

namespace GuidedLogin

def cookieJarKey : String := "authflow.cookie.jar"

abbrev CookieJar := NameMap String

structure SetCookie where
  name : String
  value : String
  expired : Bool
  deriving DecidableEq, Repr

namespace SetCookie

/-- The number of seconds that a text spells in decimal, within 64 bits. -/
def age? (chars : List Char) : Option Int :=
  let value? (digits : List Char) : Option Nat :=
    if digits.isEmpty || !digits.all Text.isDigit then none else some (Text.decimalValue digits)
  let age : Option Int :=
    match chars with
    | '-' :: digits => (value? digits).map fun value => -(value : Int)
    | '+' :: digits => (value? digits).map fun value => (value : Int)
    | digits => (value? digits).map fun value => (value : Int)
  age.filter fun age => -9223372036854775808 ≤ age && age < 9223372036854775808

def isEnd (detail : List Char) : Bool :=
  match Text.splitFirst '=' detail with
  | none => false
  | some (key, value) =>
      Text.sameFolded (String.ofList (Text.trimBlank key)) "max-age" &&
        (age? (Text.trimBlank value)).any (· ≤ 0)

/-- The value of a cookie without blanks around it and then without quotes. -/
def trimValue (chars : List Char) : List Char :=
  Text.stripWhile (· == '"') (Text.trimBlank chars)

/-- Reads a header: name and value, then details, of which only the age counts. -/
def parse? (header : String) : Option SetCookie :=
  match Text.splitAll ';' header.toList with
  | [] => none
  | pair :: details =>
      match Text.splitFirst '=' pair with
      | none => none
      | some (name, value) =>
          if (Text.trimBlank name).isEmpty then none
          else some
            ⟨String.ofList (Text.trimBlank name), String.ofList (trimValue value),
              details.any isEnd⟩

end SetCookie

namespace CookieJar

def apply (jar : CookieJar) (cookie : SetCookie) : CookieJar :=
  if cookie.expired then jar.erase cookie.name else jar.insert cookie.name cookie.value

/-- A request with a header for every cookie, in ascending order of names. -/
def attach (jar : CookieJar) (request : Request) : Request :=
  jar.entries.foldl (fun request cookie => request.withCookie cookie.1 cookie.2) request

end CookieJar

inductive CookieStore (Ω : Type) where
  | own (content : NameMap String)
  | shared (storage : Storage Ω)

structure CookieConfig (Ω : Type) where
  persist : List String
  store : CookieStore Ω
  storageKey : String

namespace CookieConfig

variable {Act Ω : Type}

def empty : CookieConfig Ω := ⟨[], .own ∅, "authflow.cookies"⟩

def ownPart : Part (View (CookieConfig Ω) Act Ω) (NameMap String) where
  get view :=
    match view.config.store with
    | .own content => content
    | .shared _ => ∅
  set content view := { view with config := { view.config with store := .own content } }

def storage (config : CookieConfig Ω) : Storage (View (CookieConfig Ω) Act Ω) :=
  match config.store with
  | .own _ => Storage.memory.on ownPart
  | .shared storage => storage.on View.outsidePart

end CookieConfig

namespace Cookie

variable {Act Ω : Type}

abbrev Sight (Act Ω : Type) : Type := View (CookieConfig Ω) Act Ω

def jar (context : Context Act) : Except Error CookieJar := context.getOr cookieJarKey .jar ∅

def changeJar (change : CookieJar → CookieJar) : Proc (Sight Act Ω) Unit :=
  Proc.tryStep fun view =>
    (view.context.update cookieJarKey .jar fun jar => change (jar.getD ∅)).map fun updated =>
      ((), view.withContext updated.2)

def attach (request : Request) : Proc (Sight Act Ω) Request :=
  .read fun view => Proc.ofExcept ((jar view.context).map fun jar => jar.attach request)

def load : Proc (Sight Act Ω) Unit := do
  let view ← Proc.state
  match ← view.config.storage.get view.config.storageKey with
  | none => pure ()
  | some text =>
      match Json.parseTexts text with
      | .error fault => Proc.throw (.json fault)
      | .ok stored => changeJar fun jar => jar.insertAll stored.entries

/-- Puts the cookies that a response sets into the jar, and tells their names. -/
def absorb (response : Response) : Proc (Sight Act Ω) (List String) :=
  match response.setCookies.filterMap SetCookie.parse? with
  | [] => .done []
  | cookies => do
      changeJar fun jar => cookies.foldl CookieJar.apply jar
      pure (cookies.map SetCookie.name)

/-- Brings the storage up to date if one of the changed cookies is to be persisted. -/
def persist (changed : List String) : Proc (Sight Act Ω) Unit := do
  let view ← Proc.state
  let config := view.config
  if changed.any config.persist.contains then
    let jar ← Proc.ofExcept (jar view.context)
    let kept := jar.keep config.persist.contains
    if kept.isEmpty then config.storage.delete config.storageKey
    else config.storage.save config.storageKey (Json.renderTexts kept)
  else pure ()

def forget : Proc (Sight Act Ω) Unit := do
  let view ← Proc.state
  Proc.modify fun view => view.withContext (view.context.erase cookieJarKey)
  view.config.storage.delete view.config.storageKey

/-- Attaches the jar to the request that ends the session, then forgets it. -/
def signOff (request : Request) : Proc (Sight Act Ω) Request := do
  let request ← attach request
  forget
  pure request

end Cookie

def Module.cookie {Act Ω : Type} : Module (CookieConfig Ω) Act Ω :=
  .ofHooks "cookie" .empty
    [.init Cookie.load,
     .start Cookie.attach,
     .next fun _ request => Cookie.attach request,
     .response fun response => do Cookie.persist (← Cookie.absorb response),
     .signOff Cookie.signOff]

end GuidedLogin
