/-
What a sequence of registrations comes to. Whether a call makes a registration of
its own or shapes one that is there is told by the calls before it alone (`Creates`),
and what becomes of a configuration by the calls behind it (`finalConfig`). The
registrations are those of the calls that create, in stable order of priorities.
-/
import GuidedLogin.Proofs.StableOrder
import Mathlib.Data.List.Induction

namespace GuidedLogin.Registry

structure Enlistment {κ : Type} (Config : κ → Type) where
  key : κ
  options : RegistrationOptions
  block : Config key → Config key

structure Occasion {κ : Type} (Config : κ → Type) where
  earlier : List (Enlistment Config)
  call : Enlistment Config
  later : List (Enlistment Config)

def occasionsFrom {κ : Type} {Config : κ → Type} (earlier : List (Enlistment Config)) :
    List (Enlistment Config) → List (Occasion Config)
  | [] => []
  | call :: later => ⟨earlier, call, later⟩ :: occasionsFrom (earlier ++ [call]) later

def occasions {κ : Type} {Config : κ → Type} (calls : List (Enlistment Config)) :
    List (Occasion Config) :=
  occasionsFrom [] calls

variable {κ : Type} [DecidableEq κ] {Config : κ → Type}

def Unknown (calls : List (Enlistment Config)) (key : κ) : Prop := ∀ call ∈ calls, call.key ≠ key

instance (calls : List (Enlistment Config)) (key : κ) : Decidable (Unknown calls key) :=
  inferInstanceAs (Decidable (∀ call ∈ calls, call.key ≠ key))

/-- Some call for a module replaces, or would ignore and came first. -/
def Claimed (calls : List (Enlistment Config)) (key : κ) : Prop :=
  ∃ occasion ∈ occasions calls, occasion.call.key = key ∧
    (occasion.call.options.mode = .replace ∨
      occasion.call.options.mode = .ignore ∧ Unknown occasion.earlier key)

instance (calls : List (Enlistment Config)) (key : κ) : Decidable (Claimed calls key) :=
  inferInstanceAs (Decidable (∃ occasion ∈ occasions calls, occasion.call.key = key ∧
    (occasion.call.options.mode = .replace ∨
      occasion.call.options.mode = .ignore ∧ Unknown occasion.earlier key)))

/-- Does a call behind earlier ones make a registration of its own? -/
def Creates (earlier : List (Enlistment Config)) (call : Enlistment Config) : Prop :=
  match call.options.mode with
  | .append => True
  | .replace => ¬ Claimed earlier call.key
  | .ignore => Unknown earlier call.key

instance (earlier : List (Enlistment Config)) (call : Enlistment Config) :
    Decidable (Creates earlier call) :=
  match mode : call.options.mode with
  | .append => isTrue (by simp [Creates, mode])
  | .replace => decidable_of_iff (¬ Claimed earlier call.key) (by simp [Creates, mode])
  | .ignore => decidable_of_iff (Unknown earlier call.key) (by simp [Creates, mode])

namespace Enlistment

def replacement? (key : κ) (call : Enlistment Config) : Option (Config key → Config key) :=
  if same : call.key = key then
    if call.options.mode = .replace then some (same ▸ call.block) else none
  else none

/-- The configuration of a registration: the fresh one with the block of its call and,
unless it was appended, those of all later calls that replace its module. -/
def finalConfig (fresh : (key : κ) → Config key) (call : Enlistment Config)
    (later : List (Enlistment Config)) : Config call.key :=
  if call.options.mode = .append then call.block (fresh call.key)
  else
    (later.filterMap (replacement? call.key)).foldl (fun config block => block config)
      (call.block (fresh call.key))

omit [DecidableEq κ] in
def priority (call : Enlistment Config) : Int := call.options.priority.getD defaultPriority

omit [DecidableEq κ] in
def info (call : Enlistment Config) : RegistrationInfo κ :=
  ⟨call.key, call.priority, call.options.mode⟩

def entry (fresh : (key : κ) → Config key) (call : Enlistment Config)
    (later : List (Enlistment Config)) : Registration Config :=
  ⟨call.key, call.finalConfig fresh later, call.priority, call.options.mode⟩

end Enlistment

def creations (calls : List (Enlistment Config)) : List (Occasion Config) :=
  (occasions calls).filter fun occasion => Creates occasion.earlier occasion.call

def entries (fresh : (key : κ) → Config key) (calls : List (Enlistment Config)) :
    List (Registration Config) :=
  (creations calls).map fun occasion => occasion.call.entry fresh occasion.later

def settle (fresh : (key : κ) → Config key) (calls : List (Enlistment Config)) :
    Settings Config :=
  calls.foldl
    (fun settings call => settings.register fresh call.key call.options call.block) .empty

/-! ### Calls in their places -/

omit [DecidableEq κ] in
private theorem occasionsFrom_append_singleton (earlier calls : List (Enlistment Config))
    (call : Enlistment Config) :
    occasionsFrom earlier (calls ++ [call]) =
      (occasionsFrom earlier calls).map
          (fun occasion => { occasion with later := occasion.later ++ [call] }) ++
        [⟨earlier ++ calls, call, []⟩] := by
  induction calls generalizing earlier with
  | nil => simp [occasionsFrom]
  | cons head tail ih =>
      rw [List.cons_append, occasionsFrom, ih, occasionsFrom, List.map_cons, List.cons_append,
        List.append_assoc]
      rfl

omit [DecidableEq κ] in
theorem occasions_append_singleton (calls : List (Enlistment Config)) (call : Enlistment Config) :
    occasions (calls ++ [call]) =
      (occasions calls).map
          (fun occasion => { occasion with later := occasion.later ++ [call] }) ++
        [⟨calls, call, []⟩] :=
  occasionsFrom_append_singleton [] calls call

omit [DecidableEq κ] in
private theorem call_mem_of_mem_occasionsFrom {earlier calls : List (Enlistment Config)}
    {occasion : Occasion Config} (member : occasion ∈ occasionsFrom earlier calls) :
    occasion.call ∈ calls := by
  induction calls generalizing earlier with
  | nil => cases member
  | cons head tail ih =>
      rcases List.mem_cons.mp member with rfl | inTail
      · exact List.mem_cons_self
      · exact List.mem_cons_of_mem head (ih inTail)

omit [DecidableEq κ] in
theorem Claimed.not_unknown {calls : List (Enlistment Config)} {key : κ}
    (claimed : Claimed calls key) : ¬ Unknown calls key := by
  obtain ⟨occasion, member, same, _⟩ := claimed
  intro unknown
  exact unknown occasion.call (call_mem_of_mem_occasionsFrom member) same

omit [DecidableEq κ] in
private theorem unknown_append_singleton (calls : List (Enlistment Config))
    (call : Enlistment Config)
    (key : κ) : Unknown (calls ++ [call]) key ↔ Unknown calls key ∧ call.key ≠ key := by
  simp only [Unknown, List.mem_append, List.mem_singleton]
  constructor
  · intro unknown
    exact ⟨fun other member => unknown other (Or.inl member), unknown call (Or.inr rfl)⟩
  · rintro ⟨unknown, different⟩ other (member | rfl)
    · exact unknown other member
    · exact different

omit [DecidableEq κ] in
private theorem claimed_append_singleton (calls : List (Enlistment Config))
    (call : Enlistment Config)
    (key : κ) :
    Claimed (calls ++ [call]) key ↔ Claimed calls key ∨ call.key = key ∧
      (call.options.mode = .replace ∨ call.options.mode = .ignore ∧ Unknown calls key) := by
  simp [Claimed, occasions_append_singleton, or_and_right, exists_or]

private theorem claimed_append_singleton_of_ne (calls : List (Enlistment Config))
    (call : Enlistment Config) (key : κ) :
    Claimed (calls ++ [call]) key ↔ Claimed calls key ∨
      Creates calls call ∧ call.key = key ∧ call.options.mode ≠ .append := by
  rw [claimed_append_singleton]
  constructor
  · rintro (claimed | ⟨rfl, replaces | ⟨ignores, unknown⟩⟩)
    · exact Or.inl claimed
    · by_cases claimed : Claimed calls call.key
      · exact Or.inl claimed
      · exact Or.inr ⟨by simpa [Creates, replaces] using claimed, rfl, by simp [replaces]⟩
    · exact Or.inr ⟨by simpa [Creates, ignores] using unknown, rfl, by simp [ignores]⟩
  · rintro (claimed | ⟨creates, rfl, notAppended⟩)
    · exact Or.inl claimed
    · cases mode : call.options.mode with
      | replace => exact Or.inr ⟨rfl, Or.inl rfl⟩
      | append => exact absurd mode notAppended
      | ignore => exact Or.inr ⟨rfl, Or.inr ⟨rfl, by simpa [Creates, mode] using creates⟩⟩

/-! ### One more call -/

def overlaid (call : Enlistment Config) (registration : Registration Config) :
    Registration Config :=
  if same : registration.key = call.key then
    if call.options.mode = .replace ∧ registration.mode ≠ .append then
      reconfigure call.block registration same
    else registration
  else registration

omit [DecidableEq κ] in
@[simp] theorem reconfigure_info {key : κ} (block : Config key → Config key)
    (registration : Registration Config) (same : registration.key = key) :
    (reconfigure block registration same).info = registration.info := by
  subst same
  rfl

@[simp] theorem overlaid_info (call : Enlistment Config) (registration : Registration Config) :
    (overlaid call registration).info = registration.info := by
  unfold overlaid
  split
  · rename_i same
    split
    · exact reconfigure_info call.block registration same
    · rfl
  · rfl

@[simp] theorem overlaid_key (call : Enlistment Config) (registration : Registration Config) :
    (overlaid call registration).key = registration.key :=
  congrArg RegistrationInfo.key (overlaid_info call registration)

@[simp] theorem overlaid_mode (call : Enlistment Config) (registration : Registration Config) :
    (overlaid call registration).mode = registration.mode :=
  congrArg RegistrationInfo.mode (overlaid_info call registration)

@[simp] theorem overlaid_priority (call : Enlistment Config) (registration : Registration Config) :
    (overlaid call registration).priority = registration.priority :=
  congrArg RegistrationInfo.priority (overlaid_info call registration)

private theorem overlaid_of_mode_ne (call : Enlistment Config)
    (other : call.options.mode ≠ .replace) :
    overlaid call = id := by
  funext registration
  simp [overlaid, other]

private theorem overlaid_entry (fresh : (key : κ) → Config key) (call made : Enlistment Config)
    (later : List (Enlistment Config)) :
    overlaid call (made.entry fresh later) = made.entry fresh (later ++ [call]) := by
  rcases call with ⟨key, ⟨priority, mode⟩, block⟩
  unfold overlaid Enlistment.entry Enlistment.finalConfig
  by_cases same : made.key = key
  · subst same
    by_cases appended : made.options.mode = .append
    · simp [appended]
    · by_cases replaces : mode = .replace
      · simp [appended, replaces, reconfigure, Enlistment.replacement?]
      · simp [appended, replaces, Enlistment.replacement?]
  · have different : key ≠ made.key := fun equal => same equal.symm
    simp [same, Enlistment.replacement?, different]

theorem entries_append_singleton (fresh : (key : κ) → Config key)
    (calls : List (Enlistment Config)) (call : Enlistment Config) :
    entries fresh (calls ++ [call]) =
      (entries fresh calls).map (overlaid call) ++
        if Creates calls call then [call.entry fresh []] else [] := by
  unfold entries creations
  rw [occasions_append_singleton, List.filter_append, List.map_append, List.filter_map,
    List.map_map, List.map_map]
  congr 1
  · apply List.map_congr_left
    intro occasion _
    exact (overlaid_entry fresh call occasion.call occasion.later).symm
  · by_cases creates : Creates calls call
    · simp [creates]
    · simp [creates]

theorem exists_entries_append_singleton (fresh : (key : κ) → Config key)
    (calls : List (Enlistment Config)) (call : Enlistment Config)
    (test : κ → OverrideMode → Prop) :
    (∃ registration ∈ entries fresh (calls ++ [call]), test registration.key registration.mode) ↔
      (∃ registration ∈ entries fresh calls, test registration.key registration.mode) ∨
        Creates calls call ∧ test call.key call.options.mode := by
  rw [entries_append_singleton]
  constructor
  · rintro ⟨registration, member, passes⟩
    rcases List.mem_append.mp member with old | new
    · obtain ⟨former, present, rfl⟩ := List.mem_map.mp old
      exact Or.inl ⟨former, present, by simpa using passes⟩
    · by_cases creates : Creates calls call
      · rw [if_pos creates, List.mem_singleton] at new
        subst new
        exact Or.inr ⟨creates, passes⟩
      · rw [if_neg creates] at new
        cases new
  · rintro (⟨former, present, passes⟩ | ⟨creates, passes⟩)
    · exact ⟨overlaid call former, List.mem_append_left _ (List.mem_map_of_mem present),
        by simpa using passes⟩
    · refine ⟨call.entry fresh [], List.mem_append_right _ ?_, passes⟩
      rw [if_pos creates]
      exact List.mem_singleton_self _

private theorem exists_key_entries_iff (fresh : (key : κ) → Config key)
    (calls : List (Enlistment Config))
    (key : κ) :
    (∃ registration ∈ entries fresh calls, registration.key = key) ↔ ¬ Unknown calls key := by
  induction calls using List.reverseRecOn with
  | nil => simp [entries, creations, occasions, occasionsFrom, Unknown]
  | append_singleton calls call ih =>
      rw [exists_entries_append_singleton fresh calls call (fun other _ => other = key), ih,
        unknown_append_singleton]
      constructor
      · rintro (known | ⟨_, rfl⟩) ⟨unknown, different⟩
        · exact known unknown
        · exact different rfl
      · intro known
        by_cases unknown : Unknown calls key
        · have same : call.key = key := by
            by_contra different
            exact known ⟨unknown, different⟩
          subst same
          refine Or.inr ⟨?_, rfl⟩
          cases mode : call.options.mode with
          | append => simp [Creates, mode]
          | ignore => simpa [Creates, mode] using unknown
          | replace =>
              simp only [Creates, mode]
              exact fun claimed => claimed.not_unknown unknown
        · exact Or.inl unknown

theorem exists_target_entries_iff (fresh : (key : κ) → Config key)
    (calls : List (Enlistment Config)) (key : κ) :
    (∃ registration ∈ entries fresh calls, registration.key = key ∧ registration.mode ≠ .append) ↔
      Claimed calls key := by
  induction calls using List.reverseRecOn with
  | nil => simp [entries, creations, Claimed, occasions, occasionsFrom]
  | append_singleton calls call ih =>
      rw [exists_entries_append_singleton fresh calls call
          (fun other mode => other = key ∧ mode ≠ .append), ih, claimed_append_singleton_of_ne]

omit [DecidableEq κ] in
private theorem Creates.not_claimed {calls : List (Enlistment Config)} {call : Enlistment Config}
    (creates : Creates calls call) (notAppended : call.options.mode ≠ .append) :
    ¬ Claimed calls call.key := by
  cases mode : call.options.mode with
  | append => exact absurd mode notAppended
  | replace => simpa [Creates, mode] using creates
  | ignore =>
      intro claimed
      exact claimed.not_unknown (by simpa [Creates, mode] using creates)

omit [DecidableEq κ] in
/-- Of the registrations of one module all but one at most were appended. -/
def Lone (registrations : List (Registration Config)) : Prop :=
  registrations.Pairwise fun left right =>
    left.key = right.key → left.mode = .append ∨ right.mode = .append

theorem lone_entries (fresh : (key : κ) → Config key) (calls : List (Enlistment Config)) :
    Lone (entries fresh calls) := by
  induction calls using List.reverseRecOn with
  | nil => exact List.Pairwise.nil
  | append_singleton calls call ih =>
      unfold Lone
      rw [entries_append_singleton, List.pairwise_append, List.pairwise_map]
      refine ⟨by simpa [Lone] using ih, ?_, ?_⟩
      · split
        · exact List.pairwise_singleton _ _
        · exact List.Pairwise.nil
      · intro former present made new same
        obtain ⟨registration, member, rfl⟩ := List.mem_map.mp present
        by_cases creates : Creates calls call
        · rw [if_pos creates, List.mem_singleton] at new
          subst new
          by_cases appended : call.options.mode = .append
          · exact Or.inr appended
          · left
            by_contra target
            exact creates.not_claimed appended
              ((exists_target_entries_iff fresh calls call.key).mp
                ⟨registration, member, by simpa [Enlistment.entry] using same, by simpa using target⟩)
        · rw [if_neg creates] at new
          cases new

theorem map_overlaid_of_not_target (call : Enlistment Config)
    (registrations : List (Registration Config))
    (untouched : ∀ registration ∈ registrations,
      registration.key = call.key → registration.mode = .append) :
    registrations.map (overlaid call) = registrations := by
  conv => rhs; rw [← List.map_id registrations]
  apply List.map_congr_left
  intro registration member
  unfold overlaid
  split
  · rename_i same
    rw [if_neg fun both => both.2 (untouched registration member same)]
    rfl
  · rfl

/-- Where replacements have one registration to change at most, changing the first is
overlaying them all. -/
theorem replaceFirst_of_lone (call : Enlistment Config) (replaces : call.options.mode = .replace)
    (registrations : List (Registration Config)) (lone : Lone registrations) :
    replaceFirst call.key call.block registrations =
      if ∃ registration ∈ registrations, registration.key = call.key ∧ registration.mode ≠ .append
      then some (registrations.map (overlaid call)) else none := by
  induction registrations with
  | nil => simp [replaceFirst]
  | cons head tail ih =>
      have apart := List.pairwise_cons.mp lone
      rw [replaceFirst]
      by_cases same : head.key = call.key
      · by_cases appended : head.mode = .append
        · have kept : overlaid call head = head := by simp [overlaid, appended]
          rw [dif_pos same, if_pos appended, ih apart.2, List.map_cons, kept]
          simp only [List.mem_cons, exists_eq_or_imp, appended, ne_eq, not_true_eq_false,
            and_false, false_or]
          split <;> rfl
        · have shaped : overlaid call head = reconfigure call.block head same := by
            simp [overlaid, same, replaces, appended]
          have rest : tail.map (overlaid call) = tail := by
            apply map_overlaid_of_not_target
            intro registration member sameKey
            exact (apart.1 registration member (same.trans sameKey.symm)).resolve_left appended
          rw [dif_pos same, if_neg appended, if_pos ⟨head, List.mem_cons_self, same, appended⟩,
            List.map_cons, shaped, rest]
      · have kept : overlaid call head = head := by simp [overlaid, same]
        rw [dif_neg same, ih apart.2, List.map_cons, kept]
        simp only [List.mem_cons, exists_eq_or_imp, same, false_and, false_or]
        split <;> rfl

private theorem register_entries (fresh : (key : κ) → Config key) (calls : List (Enlistment Config))
    (call : Enlistment Config) :
    register fresh (entries fresh calls) call.key call.options call.block =
      entries fresh (calls ++ [call]) := by
  rw [entries_append_singleton]
  have added : add fresh (entries fresh calls) call.key call.options call.block =
      entries fresh calls ++ [call.entry fresh []] := by
    rw [add, Enlistment.entry, Enlistment.finalConfig]
    simp [Enlistment.priority]
  unfold register
  cases mode : call.options.mode with
  | append =>
      have creates : Creates calls call := by simp [Creates, mode]
      rw [if_pos creates, overlaid_of_mode_ne call (by simp [mode]), List.map_id]
      exact added
  | ignore =>
      have present := exists_key_entries_iff fresh calls call.key
      rw [overlaid_of_mode_ne call (by simp [mode]), List.map_id]
      by_cases creates : Creates calls call
      · have unknown : Unknown calls call.key := by simpa [Creates, mode] using creates
        have absent : (entries fresh calls).any
            (fun registration => registration.key = call.key) = false := by
          rw [Bool.eq_false_iff, ne_eq, List.any_eq_true]
          simpa [present] using unknown
        rw [if_pos creates]
        simpa [absent] using added
      · have known : ¬ Unknown calls call.key := by simpa [Creates, mode] using creates
        have found : (entries fresh calls).any
            (fun registration => registration.key = call.key) = true := by
          rw [List.any_eq_true]
          simpa [present] using known
        simp [found, creates]
  | replace =>
      have target := exists_target_entries_iff fresh calls call.key
      simp only
      rw [replaceFirst_of_lone call mode _ (lone_entries fresh calls)]
      by_cases creates : Creates calls call
      · have unclaimed : ¬ Claimed calls call.key := by simpa [Creates, mode] using creates
        rw [if_neg (fun found => unclaimed (target.mp found)), if_pos creates,
          Option.getD_none, added, map_overlaid_of_not_target]
        intro registration member same
        by_contra notAppended
        exact unclaimed (target.mp ⟨registration, member, same, notAppended⟩)
      · have claimed : Claimed calls call.key := by
          simpa [Creates, mode] using creates
        rw [if_pos (target.mpr claimed), if_neg creates, Option.getD_some, List.append_nil]

theorem settle_registrations (fresh : (key : κ) → Config key) (calls : List (Enlistment Config)) :
    (settle fresh calls).registrations = entries fresh calls := by
  induction calls using List.reverseRecOn with
  | nil => rfl
  | append_singleton calls call ih =>
      have step : (settle fresh (calls ++ [call])).registrations =
          register fresh (settle fresh calls).registrations call.key call.options call.block := by
        simp [settle, Settings.register]
      rw [step, ih, register_entries]

/-! ### The registrations listed -/

def configFor? (fresh : (key : κ) → Config key) (key : κ) (occasion : Occasion Config) :
    Option (Config key) :=
  if same : occasion.call.key = key
  then some (same ▸ occasion.call.finalConfig fresh occasion.later) else none

def executionOrder (calls : List (Enlistment Config)) : List (Occasion Config) :=
  (creations calls).insertionSort fun left right => left.call.priority ≤ right.call.priority

theorem ordered_settle (fresh : (key : κ) → Config key) (calls : List (Enlistment Config)) :
    ordered (settle fresh calls).registrations =
      (executionOrder calls).map fun occasion => occasion.call.entry fresh occasion.later := by
  rw [settle_registrations, ordered_eq_insertionSort, entries, executionOrder]
  refine (List.map_insertionSort
    (fun left right : Occasion Config => left.call.priority ≤ right.call.priority)
    (fun left right : Registration Config => left.priority ≤ right.priority) _ _ ?_).symm
  intro left _ right _
  exact Iff.rfl

private theorem infos_settle (fresh : (key : κ) → Config key) (calls : List (Enlistment Config)) :
    (settle fresh calls).infos = (executionOrder calls).map fun occasion => occasion.call.info := by
  rw [Settings.infos, ordered_settle, List.map_map]
  rfl

omit [DecidableEq κ] in
private theorem ordered_map_of_priority (change : Registration Config → Registration Config)
    (keeps : ∀ registration, (change registration).priority = registration.priority)
    (registrations : List (Registration Config)) :
    ordered (registrations.map change) = (ordered registrations).map change := by
  rw [ordered_eq_insertionSort, ordered_eq_insertionSort]
  refine (List.map_insertionSort _ _ change registrations ?_).symm
  intro left _ right _
  rw [keeps, keeps]

/-- A call that creates moves no registration that is there, and every other one leaves
the descriptions of all registrations as they are. -/
theorem infos_settle_append_singleton (fresh : (key : κ) → Config key)
    (calls : List (Enlistment Config)) (call : Enlistment Config) :
    if Creates calls call
      then (settle fresh calls).infos.Sublist (settle fresh (calls ++ [call])).infos
      else (settle fresh (calls ++ [call])).infos = (settle fresh calls).infos := by
  have former : (ordered ((entries fresh calls).map (overlaid call))).map Registration.info =
      (settle fresh calls).infos := by
    rw [ordered_map_of_priority _ (overlaid_priority call), List.map_map, Settings.infos,
      settle_registrations]
    apply List.map_congr_left
    intro registration _
    exact overlaid_info call registration
  have latter : (settle fresh (calls ++ [call])).infos =
      (ordered ((entries fresh calls).map (overlaid call) ++
        if Creates calls call then [call.entry fresh []] else [])).map Registration.info := by
    rw [Settings.infos, settle_registrations, entries_append_singleton]
  rw [← former, latter]
  split
  · rw [ordered_eq_insertionSort, ordered_eq_insertionSort]
    exact (sublist_insertionSort_append (fun registration : Registration Config =>
      registration.priority) _ _).map Registration.info
  · rw [List.append_nil]

omit [DecidableEq κ] in
/-- Is a registration what a replacement of a module changes, by its description? -/
def IsTargetOf (key : κ) (info : RegistrationInfo κ) : Prop := info.key = key ∧ info.mode ≠ .append

instance (key : κ) (info : RegistrationInfo κ) : Decidable (IsTargetOf key info) :=
  inferInstanceAs (Decidable (info.key = key ∧ info.mode ≠ .append))

private theorem Lone.length_filter_le {registrations : List (Registration Config)}
    (lone : Lone registrations) (key : κ) :
    ((registrations.map Registration.info).filter fun info => IsTargetOf key info).length ≤ 1 := by
  induction registrations with
  | nil => simp
  | cons head tail ih =>
      have apart := List.pairwise_cons.mp lone
      rw [List.map_cons]
      by_cases target : IsTargetOf key head.info
      · have rest : (tail.map Registration.info).filter (fun info => IsTargetOf key info) = [] := by
          rw [List.filter_eq_nil_iff]
          intro info member isTarget
          obtain ⟨registration, present, rfl⟩ := List.mem_map.mp member
          have other : IsTargetOf key registration.info := by simpa using isTarget
          rcases apart.1 registration present (target.1.trans other.1.symm) with appended | appended
          · exact target.2 appended
          · exact other.2 appended
        rw [List.filter_cons_of_pos (by simpa using target), rest]
        exact Nat.le_refl 1
      · rw [List.filter_cons_of_neg (by simpa using target)]
        exact ih apart.2

/-- At most one registration of a module was not appended. -/
theorem length_targets_infos_settle (fresh : (key : κ) → Config key)
    (calls : List (Enlistment Config)) (key : κ) :
    ((settle fresh calls).infos.filter fun info => IsTargetOf key info).length ≤ 1 := by
  have sorted : (ordered (settle fresh calls).registrations).Perm (entries fresh calls) := by
    rw [settle_registrations, ordered_eq_insertionSort]
    exact List.perm_insertionSort _ _
  rw [Settings.infos, ((sorted.map Registration.info).filter _).length_eq]
  exact (lone_entries fresh calls).length_filter_le key

/-! ### Configurations looked up -/

/-- The configuration found for a module is that of its registration which was not
appended. -/
theorem configOf?_settle (fresh : (key : κ) → Config key) (calls : List (Enlistment Config))
    (key : κ) :
    configOf? (settle fresh calls).registrations key =
      ((creations calls).filter fun occasion => occasion.call.options.mode ≠ .append).findSome?
        (configFor? fresh key) := by
  rw [settle_registrations, configOf?, entries, List.filter_map, List.findSome?_map]
  rfl

private theorem configsOf_settle (fresh : (key : κ) → Config key) (calls : List (Enlistment Config))
    (key : κ) :
    configsOf (settle fresh calls).registrations key =
      (executionOrder calls).filterMap (configFor? fresh key) := by
  rw [configsOf, ordered_settle, List.filterMap_map]
  rfl

/-- Registrations in closed form. Those listed are the creating calls, each with its
module, priority and mode, in stable order of priority. An appended one has the fresh
configuration with the block of its call; the one that was not, also those of all later
calls that replace its module. No module has two that were not appended, and no call
moves a registration or gives it another priority. -/
theorem settle_closed_form (fresh : (key : κ) → Config key) (calls : List (Enlistment Config)) :
    SortedBy (fun occasion => occasion.call.priority) (executionOrder calls) (creations calls) ∧
      (settle fresh calls).infos =
        ((executionOrder calls).map fun occasion => occasion.call.info) ∧
      (ordered (settle fresh calls).registrations =
        (executionOrder calls).map fun occasion => occasion.call.entry fresh occasion.later) ∧
      (∀ key, ((settle fresh calls).infos.filter fun info => IsTargetOf key info).length ≤ 1) ∧
      (∀ key, configOf? (settle fresh calls).registrations key =
        ((creations calls).filter fun occasion => occasion.call.options.mode ≠ .append).findSome?
          (configFor? fresh key)) ∧
      (∀ key, configsOf (settle fresh calls).registrations key =
        (executionOrder calls).filterMap (configFor? fresh key)) ∧
      ∀ call, if Creates calls call
        then (settle fresh calls).infos.Sublist (settle fresh (calls ++ [call])).infos
        else (settle fresh (calls ++ [call])).infos = (settle fresh calls).infos :=
  ⟨sortedBy_insertionSort _ (creations calls), infos_settle fresh calls, ordered_settle fresh calls,
    length_targets_infos_settle fresh calls, configOf?_settle fresh calls,
    configsOf_settle fresh calls, infos_settle_append_singleton fresh calls⟩

/-- A module is appended, claimed and replaced under another priority, all around a module
that runs first. -/
example :
    let calls : List (Enlistment fun _ : Bool => List Nat) :=
      [⟨false, ⟨none, .append⟩, (· ++ [1])⟩, ⟨false, ⟨some 7, .replace⟩, (· ++ [2])⟩,
        ⟨true, ⟨some (-1), .ignore⟩, (· ++ [3])⟩, ⟨false, ⟨some (-5), .replace⟩, (· ++ [4])⟩]
    let settings := settle (fun _ => []) calls
    settings.infos = [⟨true, -1, .ignore⟩, ⟨false, 7, .replace⟩, ⟨false, 10, .append⟩] ∧
      configsOf settings.registrations false = [[2, 4], [1]] := by
  decide

end GuidedLogin.Registry
