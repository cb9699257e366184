/-
Sign-offs of the cookies that fail. The jar is forgotten before what is stored of it is
deleted, so a deletion that fails leaves the cookies stored and no jar (`Lost`): what the
failed sign-off has built is given up, and none that follows has a cookie to attach.
-/
import GuidedLogin.Proofs.Depot

namespace GuidedLogin

namespace Cookie

variable {Act Ω : Type} {sight after : Sight Act Ω} {request : Request} {fault : Fault}

/-- The jar is gone, and nothing else has changed but what a failed deletion has done to
the world outside. -/
structure Lost (sight after : Sight Act Ω) (fault : Fault) : Prop where
  context : after.context = sight.context.erase cookieJarKey
  config : after.config = sight.config
  deletion : ∃ storage, sight.config.store = .shared storage ∧
    (storage.delete sight.config.storageKey).run sight.common.outside =
      (.error fault, after.common.outside)

private theorem outsidePart_lawful {C : Type} : (View.outsidePart : Part (View C Act Ω) Ω).Lawful :=
  ⟨fun _ _ => rfl, fun _ => rfl, fun _ _ _ => rfl⟩

/-- Only a deletion elsewhere can fail, and it reaches nothing but the world outside. -/
theorem run_delete_error {config : CookieConfig Ω} {entry : String}
    (failed : (config.storage.delete entry).run sight = (.error fault, after)) :
    ∃ storage, config.store = .shared storage ∧
      (storage.delete entry).run sight.common.outside = (.error fault, after.common.outside) ∧
      after.config = sight.config ∧ after.context = sight.context := by
  unfold CookieConfig.storage at failed
  cases kept : config.store with
  | own content =>
      rw [kept] at failed
      cases failed
  | shared storage =>
      rw [kept] at failed
      change ((storage.delete entry).on View.outsidePart).run sight = _ at failed
      rw [Proc.run_on _ outsidePart_lawful] at failed
      obtain ⟨faulty, left⟩ := Prod.ext_iff.mp failed
      cases left
      exact ⟨storage, rfl, Prod.ext faulty rfl, rfl, rfl⟩

theorem run_forget_error
    (failed : (forget : Proc (Sight Act Ω) Unit).run sight = (.error fault, after)) :
    Lost sight after fault := by
  change (sight.config.storage.delete sight.config.storageKey : Proc (Sight Act Ω) Unit).run
    (sight.withContext (sight.context.erase cookieJarKey)) = _ at failed
  obtain ⟨storage, kept, deleted, config, context⟩ := run_delete_error failed
  exact ⟨context, config, storage, kept, deleted⟩

private theorem Lost.gone {later : Sight Act Ω} (lost : Lost sight after fault)
    (kept : later.context = after.context) :
    later.common.shared cookieJarKey = sharedJar none := by
  change NameMap.find? later.context cookieJarKey = none
  rw [kept, lost.context, NameMap.find?_erase, if_pos rfl]

/-- A sign-off of the cookies that fails has changed nothing if there is no jar to read;
else the jar is lost, and a sign-off that is tried again attaches nothing, whatever has
become of the storage. -/
theorem lost_of_failed
    (failed : (signOff request : Proc (Sight Act Ω) Request).run sight = (.error fault, after)) :
    (∃ cause, jar sight.context = .error cause ∧ fault = .error cause ∧ after = sight) ∨
      (∃ held, jar sight.context = .ok held) ∧ Lost sight after fault ∧
        ∀ later : Sight Act Ω, later.context = after.context → ∀ again,
          (signOff again : Proc (Sight Act Ω) Request).run later =
            (((forget : Proc (Sight Act Ω) Unit).run later).1.map fun _ => again,
              ((forget : Proc (Sight Act Ω) Unit).run later).2) := by
  have unfolded : (signOff request : Proc (Sight Act Ω) Request).run sight =
      ((Proc.ofExcept ((jar sight.context).map fun held => held.attach request)).bind
        fun built => forget.bind fun _ => .done built : Proc (Sight Act Ω) Request).run sight :=
    rfl
  rw [unfolded, Proc.run_bind] at failed
  cases read : jar sight.context with
  | error cause =>
      rw [read] at failed
      cases failed
      exact Or.inl ⟨cause, rfl, rfl, rfl⟩
  | ok held =>
      rw [read] at failed
      change (forget.bind fun _ => .done (held.attach request) :
        Proc (Sight Act Ω) Request).run sight = _ at failed
      rw [Proc.run_bind_done] at failed
      rcases ended : (forget : Proc (Sight Act Ω) Unit).run sight with ⟨cause | done, left⟩
      · rw [ended] at failed
        cases failed
        have lost := run_forget_error ended
        exact Or.inr ⟨⟨held, rfl⟩, lost, fun later kept => run_signOff_eq (lost.gone kept)⟩
      · rw [ended] at failed
        cases failed

/-! ### A storage that is out of order for a while -/

/-- A storage that has nothing, and deletes nothing unless it is in order. -/
def stuckStorage : Storage Bool where
  get _ := .done none
  save _ _ := .done ()
  delete _ := .read fun inOrder =>
    if inOrder then .done () else Proc.throw (.custom "storage is down")

def stuckConfig : CookieConfig Bool := ⟨[], .shared stuckStorage, "authflow.cookies"⟩

def stuckSight : Sight Unit Bool :=
  ⟨stuckConfig, ⟨Context.set ∅ cookieJarKey .jar (NameMap.insert ∅ "sid" "1"), false⟩⟩

def stuckAfter : Sight Unit Bool :=
  stuckSight.withContext (stuckSight.context.erase cookieJarKey)

theorem stuckSight_failed (request : Request) :
    (signOff request : Proc (Sight Unit Bool) Request).run stuckSight =
      (.error (.error (.custom "storage is down")), stuckAfter) := rfl

/-- The cookie is lost, and a sign-off that is tried again when the storage is in order
succeeds without it. -/
theorem stuckSight_lost :
    Lost stuckSight stuckAfter (.error (.custom "storage is down")) ∧
      ((signOff .empty : Proc (Sight Unit Bool) Request).run
        ⟨stuckConfig, ⟨stuckAfter.context, true⟩⟩).1 = .ok .empty := by
  rcases lost_of_failed (stuckSight_failed .empty) with ⟨cause, unread, _, _⟩ | ⟨_, lost, again⟩
  · cases unread
  · refine ⟨lost, ?_⟩
    rw [again ⟨stuckConfig, ⟨stuckAfter.context, true⟩⟩ rfl]
    rfl

/-- The jar is not what it was before a sign-off that fails. -/
theorem not_kept_by_failed : ¬ ∀ (sight after : Sight Unit Bool) (request : Request) (fault : Fault),
    (signOff request : Proc (Sight Unit Bool) Request).run sight = (.error fault, after) →
    jar after.context = jar sight.context := by
  intro kept
  have same := kept stuckSight stuckAfter .empty _ (stuckSight_failed .empty)
  cases same

end Cookie

end GuidedLogin
