/-
What the cookies do while nothing else touches the jar and what is stored of it. Every
hook takes a jar and the cookies stored to others (`run_load`, `run_absorb`,
`run_persist`, `run_forget`). Loading puts all that is stored into the jar, and the others
keep what is stored at what is to be persisted of the jar (`maintains_mirrored`).
-/
import GuidedLogin.Proofs.StockSparing
import GuidedLogin.Proofs.TextsRoundTrip

namespace GuidedLogin

variable {Act Ω : Type}

inductive Depot (Ω : Type) where
  | own
  | shared (content : Part Ω (NameMap String))

namespace Depot

def part : Depot Ω → Part (Cookie.Sight Act Ω) (NameMap String)
  | .own => CookieConfig.ownPart
  | .shared content => View.outsidePart.comp content

def Fits : Depot Ω → CookieConfig Ω → Prop
  | .own, config => ∃ content, config.store = .own content
  | .shared content, config =>
      content.Lawful ∧ config.store = .shared (Storage.memory.on content)

/-- What is stored under a key outside. -/
def textOutside (depot : Depot Ω) (entry : String) (outside : Ω) : Option String :=
  match depot with
  | .own => none
  | .shared content => (content.get outside).find? entry

def text (depot : Depot Ω) (sight : Cookie.Sight Act Ω) : Option String :=
  (depot.part.get sight).find? sight.config.storageKey

def decode : Option String → Except Json.ReadError CookieJar
  | none => .ok ∅
  | some text => Json.parseTexts text

def cookies (depot : Depot Ω) (sight : Cookie.Sight Act Ω) : Except Json.ReadError CookieJar :=
  decode (depot.text sight)

variable {depot : Depot Ω} {config : CookieConfig Ω} {sight : Cookie.Sight Act Ω}

theorem run_get (fits : depot.Fits config) (entry : String) :
    (config.storage.get entry).run sight = (.ok ((depot.part.get sight).find? entry), sight) := by
  unfold CookieConfig.storage
  cases depot with
  | own =>
      obtain ⟨content, same⟩ := fits
      rw [same]
      rfl
  | shared content =>
      rw [fits.2]
      rfl

theorem run_save (fits : depot.Fits config) (entry text : String) :
    (config.storage.save entry text).run sight =
      (.ok (), depot.part.set ((depot.part.get sight).insert entry text) sight) := by
  unfold CookieConfig.storage
  cases depot with
  | own =>
      obtain ⟨content, same⟩ := fits
      rw [same]
      rfl
  | shared content =>
      rw [fits.2]
      rfl

theorem run_delete (fits : depot.Fits config) (entry : String) :
    (config.storage.delete entry).run sight =
      (.ok (), depot.part.set ((depot.part.get sight).erase entry) sight) := by
  unfold CookieConfig.storage
  cases depot with
  | own =>
      obtain ⟨content, same⟩ := fits
      rw [same]
      rfl
  | shared content =>
      rw [fits.2]
      rfl

theorem part_get_set (fits : depot.Fits sight.config) (content : NameMap String) :
    depot.part.get (depot.part.set content sight) = content := by
  cases depot with
  | own => rfl
  | shared place => exact fits.1.get_set content sight.common.outside

theorem fits_set (fits : depot.Fits sight.config) (content : NameMap String) :
    depot.Fits (depot.part.set content sight).config := by
  cases depot with
  | own => exact ⟨content, rfl⟩
  | shared place => exact fits

theorem policy_set (depot : Depot Ω) (content : NameMap String) (sight : Cookie.Sight Act Ω) :
    (depot.part.set content sight).config.persist = sight.config.persist ∧
      (depot.part.set content sight).config.storageKey = sight.config.storageKey := by
  cases depot <;> exact ⟨rfl, rfl⟩

theorem context_set (depot : Depot Ω) (content : NameMap String) (sight : Cookie.Sight Act Ω) :
    (depot.part.set content sight).common.context = sight.common.context := by
  cases depot <;> rfl

theorem cookies_withContext (depot : Depot Ω) (sight : Cookie.Sight Act Ω)
    (context : Context Act) : depot.cookies (sight.withContext context) = depot.cookies sight := by
  cases depot <;> rfl

theorem cookies_congr {other : Cookie.Sight Act Ω} (config : other.config = sight.config)
    (outside : depot.textOutside sight.config.storageKey other.common.outside =
      depot.textOutside sight.config.storageKey sight.common.outside) :
    depot.cookies other = depot.cookies sight := by
  have same : depot.text other = depot.text sight := by
    unfold text
    rw [config]
    cases depot with
    | own =>
        unfold part CookieConfig.ownPart
        dsimp only
        rw [config]
    | shared content => exact outside
  unfold cookies
  rw [same]

theorem textOutside_of_text (gone : depot.text sight = none) :
    depot.textOutside sight.config.storageKey sight.common.outside = none := by
  cases depot with
  | own => rfl
  | shared content => exact gone

/-- What is not stored is not where nobody has stored it outside either. -/
theorem text_of_textOutside {other : Cookie.Sight Act Ω} (config : other.config = sight.config)
    (gone : depot.text sight = none)
    (outside : depot.textOutside sight.config.storageKey other.common.outside = none) :
    depot.text other = none := by
  cases depot with
  | own =>
      unfold text part CookieConfig.ownPart at gone ⊢
      dsimp only at gone ⊢
      rw [config]
      exact gone
  | shared content =>
      unfold text
      rw [config]
      exact outside

end Depot

namespace CookieJar

variable {jar : CookieJar} {cookies : List SetCookie} {test : String → Bool}

theorem keep_apply {cookie : SetCookie} (other : test cookie.name = false) :
    (jar.apply cookie).keep test = jar.keep test := by
  refine NameMap.ext_find fun name => ?_
  unfold apply
  rw [NameMap.find?_keep, NameMap.find?_keep]
  by_cases kept : test name
  · have apart : name ≠ cookie.name := by
      rintro rfl
      rw [other] at kept
      cases kept
    rw [if_pos kept, if_pos kept]
    split
    · rw [NameMap.find?_erase, if_neg apart]
    · rw [NameMap.find?_insert, if_neg apart]
  · rw [if_neg kept, if_neg kept]

theorem keep_foldl_apply (others : ∀ cookie ∈ cookies, test cookie.name = false) :
    (cookies.foldl apply jar).keep test = jar.keep test := by
  induction cookies generalizing jar with
  | nil => rfl
  | cons cookie rest ih =>
      rw [List.foldl_cons, ih fun other member => others other (List.mem_cons_of_mem cookie member)]
      exact keep_apply (others cookie List.mem_cons_self)

end CookieJar

namespace Cookie

variable {depot : Depot Ω} {names : List String} {entry : String}
variable {jar : Option CookieJar} {stored : CookieJar} {sight : Sight Act Ω}

abbrev sharedJar (jar : Option CookieJar) : Option (Valued Act) := jar.map fun jar => ⟨.jar, jar⟩

def persisted (config : CookieConfig Ω) (jar : CookieJar) (content : NameMap String) :
    NameMap String :=
  if (jar.keep config.persist.contains).isEmpty then content.erase config.storageKey
  else content.insert config.storageKey (Json.renderTexts (jar.keep config.persist.contains))

/-! ### The work of the hooks -/

theorem get_of_shared (shared : sight.common.shared cookieJarKey = sharedJar jar) :
    sight.context.get cookieJarKey .jar = .ok jar :=
  Context.get_of_find? shared

theorem jar_of_shared (shared : sight.common.shared cookieJarKey = sharedJar jar) :
    Cookie.jar sight.context = .ok (jar.getD ∅) := by
  have found := get_of_shared shared
  unfold Context.get at found
  unfold Cookie.jar Context.getOr TypedMap.getOr
  cases got : TypedMap.get sight.context cookieJarKey .jar with
  | error fault =>
      rw [got] at found
      cases found
  | ok value =>
      rw [got] at found
      cases found
      rfl

theorem run_changeJar_eq (shared : sight.common.shared cookieJarKey = sharedJar jar)
    (change : CookieJar → CookieJar) :
    (changeJar change : Proc (Sight Act Ω) Unit).run sight =
      (.ok (), sight.withContext
        (sight.context.set cookieJarKey .jar (change (jar.getD ∅)))) := by
  have found := get_of_shared shared
  unfold changeJar
  rw [Proc.run_tryStep]
  unfold Context.update
  rw [TypedMap.update_eq]
  unfold Context.get at found
  cases got : TypedMap.get sight.context cookieJarKey .jar with
  | error fault =>
      rw [got] at found
      cases found
  | ok value =>
      rw [got] at found
      cases found
      rfl

theorem run_load_eq (fits : depot.Fits sight.config) :
    (load : Proc (Sight Act Ω) Unit).run sight =
      match depot.text sight with
      | none => (.ok (), sight)
      | some text =>
          match Json.parseTexts text with
          | .error fault => (.error (.error (.json fault)), sight)
          | .ok stored =>
              (changeJar fun jar => jar.insertAll stored.entries :
                Proc (Sight Act Ω) Unit).run sight := by
  have unfolded : (load : Proc (Sight Act Ω) Unit).run sight =
      ((sight.config.storage.get sight.config.storageKey).bind _).run sight := rfl
  rw [unfolded, Proc.run_bind, depot.run_get fits]
  unfold Depot.text
  cases NameMap.find? (depot.part.get sight) sight.config.storageKey with
  | none => rfl
  | some text =>
      dsimp only
      cases Json.parseTexts text <;> rfl

theorem run_attach_eq (shared : sight.common.shared cookieJarKey = sharedJar jar)
    (request : Request) :
    (attach request : Proc (Sight Act Ω) Request).run sight =
      (.ok ((jar.getD ∅).attach request), sight) := by
  change (Proc.ofExcept ((Cookie.jar sight.context).map fun jar => jar.attach request) :
    Proc (Sight Act Ω) Request).run sight = _
  rw [jar_of_shared shared]
  rfl

theorem run_persist_eq (fits : depot.Fits sight.config)
    (shared : sight.common.shared cookieJarKey = sharedJar jar) (changed : List String) :
    (persist changed : Proc (Sight Act Ω) Unit).run sight =
      (.ok (), if changed.any sight.config.persist.contains then
        depot.part.set (persisted sight.config (jar.getD ∅) (depot.part.get sight)) sight
      else sight) := by
  have unfolded : (persist changed : Proc (Sight Act Ω) Unit).run sight =
      (if changed.any sight.config.persist.contains then
        (Proc.ofExcept (Cookie.jar sight.context)).bind fun jar =>
          if (jar.keep sight.config.persist.contains).isEmpty then
            sight.config.storage.delete sight.config.storageKey
          else sight.config.storage.save sight.config.storageKey
            (Json.renderTexts (jar.keep sight.config.persist.contains))
      else .done () : Proc (Sight Act Ω) Unit).run sight := rfl
  rw [unfolded, jar_of_shared shared]
  by_cases named : changed.any sight.config.persist.contains
  · rw [if_pos named, if_pos named]
    unfold persisted
    change Proc.run
      (if ((jar.getD ∅).keep sight.config.persist.contains).isEmpty then _ else _) sight = _
    split
    · exact depot.run_delete fits _
    · exact depot.run_save fits _ _
  · rw [if_neg named, if_neg named]
    rfl

theorem run_forget_eq (fits : depot.Fits sight.config) :
    (forget : Proc (Sight Act Ω) Unit).run sight =
      (.ok (), depot.part.set
        ((depot.part.get (sight.withContext (sight.context.erase cookieJarKey))).erase
          sight.config.storageKey)
        (sight.withContext (sight.context.erase cookieJarKey))) := by
  have unfolded : (forget : Proc (Sight Act Ω) Unit).run sight =
      (sight.config.storage.delete sight.config.storageKey : Proc (Sight Act Ω) Unit).run
        (sight.withContext (sight.context.erase cookieJarKey)) := rfl
  rw [unfolded, depot.run_delete fits]

theorem run_signOff_eq (shared : sight.common.shared cookieJarKey = sharedJar jar)
    (request : Request) :
    (signOff request : Proc (Sight Act Ω) Request).run sight =
      (((forget : Proc (Sight Act Ω) Unit).run sight).1.map fun _ =>
          (jar.getD ∅).attach request,
        ((forget : Proc (Sight Act Ω) Unit).run sight).2) := by
  change ((attach request).bind fun request => forget.bind fun _ => .done request :
    Proc (Sight Act Ω) Request).run sight = _
  rw [Proc.run_bind, run_attach_eq shared]
  exact Proc.run_bind_done _ _ _

structure Kept (depot : Depot Ω) (names : List String) (entry : String) (jar : Option CookieJar)
    (stored : CookieJar) (sight : Sight Act Ω) : Prop where
  fits : depot.Fits sight.config
  names : sight.config.persist = names
  entry : sight.config.storageKey = entry
  jar : sight.common.shared cookieJarKey = jar.map fun jar => ⟨.jar, jar⟩
  stored : depot.cookies sight = .ok stored

namespace Kept

theorem jar_eq (kept : Kept depot names entry jar stored sight) :
    Cookie.jar sight.context = .ok (jar.getD ∅) :=
  jar_of_shared kept.jar

private theorem withJar (kept : Kept depot names entry jar stored sight) (next : CookieJar) :
    Kept depot names entry (some next) stored
      (sight.withContext (sight.context.set cookieJarKey .jar next)) where
  fits := kept.fits
  names := kept.names
  entry := kept.entry
  jar := shared_set_self sight cookieJarKey .jar next
  stored := (depot.cookies_withContext sight _).trans kept.stored

private theorem withoutJar (kept : Kept depot names entry jar stored sight) :
    Kept depot names entry none stored
      (sight.withContext (sight.context.erase cookieJarKey)) where
  fits := kept.fits
  names := kept.names
  entry := kept.entry
  jar := shared_erase_self sight cookieJarKey
  stored := (depot.cookies_withContext sight _).trans kept.stored

theorem withContent (kept : Kept depot names entry jar stored sight) {content : NameMap String}
    {next : CookieJar}
    (holds : Depot.decode (content.find? entry) = .ok next) :
    Kept depot names entry jar next (depot.part.set content sight) where
  fits := depot.fits_set kept.fits content
  names := (depot.policy_set content sight).1.trans kept.names
  entry := (depot.policy_set content sight).2.trans kept.entry
  jar := by
    unfold Common.shared
    rw [depot.context_set]
    exact kept.jar
  stored := by
    unfold Depot.cookies Depot.text
    rw [depot.part_get_set kept.fits, (depot.policy_set content sight).2, kept.entry]
    exact holds

end Kept

/-! ### The hooks -/

theorem run_changeJar (kept : Kept depot names entry jar stored sight)
    (change : CookieJar → CookieJar) :
    ∃ after, (changeJar change : Proc (Sight Act Ω) Unit).run sight = (.ok (), after) ∧
      Kept depot names entry (some (change (jar.getD ∅))) stored after :=
  ⟨_, run_changeJar_eq kept.jar change, kept.withJar (change (jar.getD ∅))⟩

theorem run_load (kept : Kept depot names entry jar stored sight) :
    ∃ after next, (load : Proc (Sight Act Ω) Unit).run sight = (.ok (), after) ∧
      Kept depot names entry next stored after ∧
      next.getD ∅ = (jar.getD ∅).insertAll stored.entries := by
  have read := kept.stored
  unfold Depot.cookies at read
  rw [run_load_eq kept.fits]
  cases text : depot.text sight with
  | none =>
      rw [text] at read
      cases read
      exact ⟨sight, jar, rfl, kept, rfl⟩
  | some text' =>
      rw [text] at read
      have parsed : Json.parseTexts text' = .ok stored := read
      dsimp only
      rw [parsed]
      obtain ⟨after, ran, changed⟩ := run_changeJar kept fun jar => jar.insertAll stored.entries
      exact ⟨after, _, ran, changed, rfl⟩

def received (response : Response) : List SetCookie :=
  response.setCookies.filterMap SetCookie.parse?

theorem run_absorb (kept : Kept depot names entry jar stored sight) (response : Response) :
    ∃ after next, (absorb response : Proc (Sight Act Ω) (List String)).run sight =
        (.ok ((received response).map SetCookie.name), after) ∧
      Kept depot names entry next stored after ∧
      next.getD ∅ = (received response).foldl CookieJar.apply (jar.getD ∅) := by
  unfold absorb received
  cases cookies : response.setCookies.filterMap SetCookie.parse? with
  | nil => exact ⟨sight, jar, rfl, kept, rfl⟩
  | cons cookie rest =>
      obtain ⟨after, ran, changed⟩ :=
        run_changeJar kept fun jar => (cookie :: rest).foldl CookieJar.apply jar
      refine ⟨after, _, ?_, changed, rfl⟩
      change ((changeJar _).bind fun _ => .done _ : Proc _ _).run sight = _
      rw [Proc.run_bind_done, ran]
      rfl

theorem run_persist (kept : Kept depot names entry jar stored sight) (changed : List String) :
    ∃ after, (persist changed : Proc (Sight Act Ω) Unit).run sight = (.ok (), after) ∧
      Kept depot names entry jar
        (if changed.any names.contains then (jar.getD ∅).keep names.contains else stored)
        after := by
  refine ⟨_, run_persist_eq kept.fits kept.jar changed, ?_⟩
  rw [kept.names]
  by_cases named : changed.any names.contains
  · rw [if_pos named, if_pos named]
    apply kept.withContent
    unfold persisted
    rw [kept.names, kept.entry]
    split
    · rename_i empty
      have nothing : (jar.getD ∅).keep names.contains = ∅ :=
        NameMap.ext (List.isEmpty_iff.mp empty)
      rw [NameMap.find?_erase, if_pos rfl, nothing]
      rfl
    · rw [NameMap.find?_insert, if_pos rfl]
      exact Json.parseTexts_renderTexts _
  · rw [if_neg named, if_neg named]
    exact kept

theorem run_forget (kept : Kept depot names entry jar stored sight) :
    ∃ after, (forget : Proc (Sight Act Ω) Unit).run sight = (.ok (), after) ∧
      Kept depot names entry none ∅ after := by
  refine ⟨_, run_forget_eq kept.fits, kept.withoutJar.withContent ?_⟩
  rw [kept.entry, NameMap.find?_erase, if_pos rfl]
  rfl

/-! ### The jar and its image in the storage -/

/-- The jar, an empty one if there is none, and the cookies stored are related. -/
def Related (depot : Depot Ω) (names : List String) (entry : String)
    (relation : CookieJar → CookieJar → Prop) (sight : Sight Act Ω) : Prop :=
  ∃ jar stored, Kept depot names entry jar stored sight ∧ relation (jar.getD ∅) stored

abbrev Mirrored (depot : Depot Ω) (names : List String) (entry : String) (sight : Sight Act Ω) :
    Prop :=
  Related depot names entry (fun jar stored => stored = jar.keep names.contains) sight

theorem keep_received {response : Response} (jar : CookieJar)
    (others : ((received response).map SetCookie.name).any names.contains = false) :
    ((received response).foldl CookieJar.apply jar).keep names.contains =
      jar.keep names.contains := by
  apply CookieJar.keep_foldl_apply
  intro cookie member
  exact Bool.eq_false_iff.mpr fun named =>
    List.any_eq_false.mp others cookie.name (List.mem_map_of_mem member) named

/-- A response changes the jar and its image alike. -/
theorem run_response (mirrored : Mirrored depot names entry sight) (response : Response) :
    ∃ after, ((absorb response).bind persist : Proc (Sight Act Ω) Unit).run sight =
        (.ok (), after) ∧ Mirrored depot names entry after := by
  obtain ⟨jar, stored, kept, same⟩ := mirrored
  obtain ⟨between, next, absorbed, changed, set⟩ := run_absorb kept response
  obtain ⟨after, persisted, brought⟩ :=
    run_persist changed ((received response).map SetCookie.name)
  refine ⟨after, ?_, next, _, brought, ?_⟩
  · rw [Proc.run_bind, absorbed]
    exact persisted
  · by_cases named : ((received response).map SetCookie.name).any names.contains
    · rw [if_pos named]
    · rw [if_neg named, same, set]
      exact (keep_received _ (Bool.eq_false_iff.mpr named)).symm

theorem run_signOff (mirrored : Mirrored depot names entry sight) (request : Request) :
    ∃ built after, (signOff request : Proc (Sight Act Ω) Request).run sight =
        (.ok built, after) ∧ Mirrored depot names entry after := by
  obtain ⟨jar, stored, kept, _⟩ := mirrored
  obtain ⟨after, forgotten, emptied⟩ := run_forget kept
  refine ⟨(jar.getD ∅).attach request, after, ?_, none, ∅, emptied, ?_⟩
  · rw [run_signOff_eq kept.jar, forgotten]
    rfl
  · exact NameMap.ext rfl

/-- No hook but the one that loads can bring the jar and its image apart. -/
theorem maintains_mirrored {view : Sight Act Ω} {hook : Hook (Sight Act Ω) Act}
    (member : hook ∈ (Module.cookie.setup view).1) (later : hook.stage ≠ .init) :
    hook.Maintains (Mirrored depot names entry) := by
  have attaching : ∀ request, (attach request : Proc (Sight Act Ω) Request).Maintains
      (Mirrored depot names entry) := fun request => Proc.maintains_read fun _ _ =>
    Proc.maintains_ofExcept _
  simp only [Module.cookie, Module.ofHooks, List.mem_cons, List.not_mem_nil, or_false] at member
  rcases member with rfl | rfl | rfl | rfl | rfl
  · exact absurd rfl later
  · exact attaching
  · exact fun step request => attaching request
  · intro response sight mirrored
    obtain ⟨after, ran, kept⟩ := run_response mirrored response
    change Mirrored depot names entry
      (((absorb response).bind persist : Proc (Sight Act Ω) Unit).run sight).2
    rw [ran]
    exact kept
  · intro request sight mirrored
    obtain ⟨built, after, ran, kept⟩ := run_signOff mirrored request
    rw [ran]
    exact kept

end Cookie

end GuidedLogin
