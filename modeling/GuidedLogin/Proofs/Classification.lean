/-
What the module of JSON responses makes of a response. The cases are told by the status,
the object that the body spells, the keys bound in it and the link it carries
(`Classified`), and every response comes under just one of them.
-/
import GuidedLogin.Proofs.Agreement
import GuidedLogin.Stock.JsonTransform

namespace GuidedLogin

/-! ### Values that are read -/

namespace Json

theorem bind_asString?_eq_some (value? : Option Json) (text : String) :
    value?.bind asString? = some text ↔ value? = some (.string text) := by
  constructor
  · intro taken
    cases value? with
    | none => cases taken
    | some value =>
        cases value with
        | string other => rw [Option.some.inj taken]
        | _ => cases taken
  · rintro rfl
    rfl

namespace Reader

private theorem exists_of_map_ok {ε α β : Type} {change : α → β} {work : Except ε α} {made : β}
    (changed : work.map change = .ok made) : ∃ value, change value = made := by
  cases work with
  | error fault => cases changed
  | ok value => exact ⟨value, Except.ok.inj changed⟩

/-- An object that is read has its fields in ascending order. -/
theorem ascending_of_value {depth : Nat} {cursor behind : Cursor} {fields : List (String × Json)}
    (found : value depth cursor = .ok (.object fields, behind)) :
    ∃ object : JsonObject, fields = object.entries := by
  cases depth
  all_goals
    unfold value at found
    dsimp only at found
    split at found
    · cases found
    repeat' split at found
    all_goals
      first
      | cases found
      | obtain ⟨read, same⟩ := exists_of_map_ok found
        cases same
  exact ⟨_, rfl⟩

private theorem ascending_of_read {bytes : List UInt8} {fields : List (String × Json)}
    (found : read bytes = .ok (.object fields)) :
    ∃ object : JsonObject, fields = object.entries := by
  unfold read at found
  cases made : value depthLimit (Cursor.start bytes) with
  | error fault =>
      rw [made] at found
      cases found
  | ok reached =>
      obtain ⟨json, behind⟩ := reached
      rw [made] at found
      change finish (json, behind) = _ at found
      unfold finish at found
      dsimp only at found
      split at found
      · cases found
        exact ascending_of_value made
      · cases found

end Reader

end Json

/-! ### Bodies and links -/

namespace Response

variable (response : Response)

def Spells (body : JsonObject) : Prop := Json.Reader.read response.body = .ok (.ofObject body)

def Accepted : Prop := 200 ≤ response.status ∧ response.status ≤ 299

/-- Where a link leads: seen from the target of the request that is answered, or by itself
if that request has none. -/
inductive Leads (link : String) : Except Url.Fault Url → Prop where
  | beside {base : Url} (target : response.request.url = some base) : Leads link (base.join link)
  | alone (target : response.request.url = none) : Leads link (Url.parse link)

/-- The object of a body as the module takes it is the one that the body spells. -/
theorem object_iff_spells (body : JsonObject) :
    response.json.toOption.bind Json.asObject? = some body ↔ response.Spells body := by
  unfold Spells json
  constructor
  · intro taken
    cases found : Json.Reader.read response.body with
    | error fault =>
        rw [found] at taken
        cases taken
    | ok value =>
        rw [found] at taken
        cases value with
        | object fields =>
            obtain ⟨object, rfl⟩ := Json.Reader.ascending_of_read found
            have same : NameMap.ofList object.entries = body := Option.some.inj taken
            rw [← same, NameMap.ofList_entries]
            rfl
        | _ => cases taken
  · intro spelled
    rw [spelled]
    exact congrArg some (NameMap.ofList_entries body)

theorem accepted_iff : response.isSuccess = true ↔ response.Accepted := by
  simp only [isSuccess, Accepted, Bool.and_eq_true, decide_eq_true_eq]
  omega

private theorem exists_leads (link : String) : ∃ found, response.Leads link found := by
  cases target : response.request.url with
  | some base => exact ⟨_, .beside target⟩
  | none => exact ⟨_, .alone target⟩

end Response

namespace JsonTransformConfig

variable {Act Ω : Type} (config : JsonTransformConfig Act Ω) (response : Response)
variable {body : JsonObject} {outside : Ω}

def Carries (body : JsonObject) (link : String) : Prop :=
  (Json.ofObject body).pointer? config.nextLink = some (.string link)

/-- The request that a step is submitted with: an empty object posted to where its link
leads. A step without a link has the empty request. -/
inductive Onward (body : JsonObject) : Except Error Request → Prop where
  | linked {link : String} {url : Url} (carried : config.Carries body link)
      (leads : response.Leads link (.ok url)) :
      Onward body (.ok ⟨"POST", some url, [], [], .json (.object [])⟩)
  | astray {link : String} {fault : Url.Fault} (carried : config.Carries body link)
      (leads : response.Leads link (.error fault)) :
      Onward body (.error (.invalidResponse (.badLink link fault)))
  | unlinked (bare : ∀ link, ¬ config.Carries body link) : Onward body (.ok .empty)

inductive Classified (outside : Ω) : Except Error (Option (Node Act) × Ω) → Prop where
  | rejected {body : JsonObject} {message : String} (refused : 400 ≤ response.status)
      (spelled : response.Spells body)
      (said : body.find? config.messageKey = some (.string message)) :
      Classified outside (.ok (some (.error ⟨body, message, none⟩), outside))
  | failed (refused : 400 ≤ response.status)
      (silent : ∀ body message, response.Spells body →
        body.find? config.messageKey ≠ some (.string message)) :
      Classified outside (.ok (some (.failure (.api response.status response.textLossy)), outside))
  | completed {body : JsonObject} {session : Json} (accepted : response.Accepted)
      (spelled : response.Spells body) (held : body.find? config.successKey = some session) :
      Classified outside (.ok (some (.success ⟨body, some ⟨.json, session⟩⟩), outside))
  | continued {body : JsonObject} {template : Request} {actions : List Act} {after : Ω}
      (accepted : response.Accepted) (spelled : response.Spells body)
      (unfinished : body.find? config.successKey = none)
      (onward : config.Onward response body (.ok template))
      (acted : config.actions.elim ([], outside) (· body outside) = (actions, after)) :
      Classified outside (.ok (some (.continuation ⟨body, actions, template, none⟩), after))
  | stranded {body : JsonObject} {cause : Error} (accepted : response.Accepted)
      (spelled : response.Spells body) (unfinished : body.find? config.successKey = none)
      (onward : config.Onward response body (.error cause)) :
      Classified outside (.error cause)
  | declined (unrefused : response.status < 400)
      (other : ∀ body, response.Accepted → ¬ response.Spells body) :
      Classified outside (.ok (none, outside))

variable {config response}

private theorem resolve_of_leads {link : String} {found : Except Url.Fault Url}
    (leads : response.Leads link found) :
    resolve response link = found.mapError fun fault => .invalidResponse (.badLink link fault) := by
  unfold resolve
  cases leads with
  | beside target => rw [target]
  | alone target => rw [target]

private theorem template_of_carries {link : String} (carried : config.Carries body link) :
    config.template response body =
      (resolve response link).map fun url => ⟨"POST", some url, [], [], .json (.object [])⟩ := by
  unfold template
  rw [(Json.bind_asString?_eq_some _ link).mpr carried]
  rfl

private theorem template_of_bare (bare : ∀ link, ¬ config.Carries body link) :
    config.template response body = .ok .empty := by
  unfold template
  cases taken : ((Json.ofObject body).pointer? config.nextLink).bind Json.asString? with
  | none => rfl
  | some link => exact absurd ((Json.bind_asString?_eq_some _ link).mp taken) (bare link)

/-- The template of a step is the request that it is submitted with. -/
theorem template_iff_onward (template : Except Error Request) :
    config.template response body = template ↔ config.Onward response body template := by
  constructor
  · rintro rfl
    by_cases carries : ∃ link, config.Carries body link
    · obtain ⟨link, carried⟩ := carries
      obtain ⟨found, leads⟩ := response.exists_leads link
      rw [template_of_carries carried, resolve_of_leads leads]
      cases found with
      | ok url => exact .linked carried leads
      | error fault => exact .astray carried leads
    · have bare := not_exists.mp carries
      rw [template_of_bare bare]
      exact .unlinked bare
  · rintro (⟨carried, leads⟩ | ⟨carried, leads⟩ | bare)
    · rw [template_of_carries carried, resolve_of_leads leads]
      rfl
    · rw [template_of_carries carried, resolve_of_leads leads]
      rfl
    · exact template_of_bare bare

/-! ### The cases -/

theorem errorNode_of_said {message : String}
    (said : body.find? config.messageKey = some (.string message)) :
    config.errorNode response (some body) = .error ⟨body, message, none⟩ := by
  simp [errorNode, said, Json.asString?]

theorem errorNode_of_silent (silent : ∀ body message, response.Spells body →
      body.find? config.messageKey ≠ some (.string message)) :
    config.errorNode response (response.json.toOption.bind Json.asObject?) =
      .failure (.api response.status response.textLossy) := by
  unfold errorNode
  cases taken : response.json.toOption.bind Json.asObject? with
  | none => rfl
  | some body =>
      have spelled := (response.object_iff_spells body).mp taken
      cases said : (body.find? config.messageKey).bind Json.asString? with
      | none => simp [said]
      | some message =>
          exact absurd ((Json.bind_asString?_eq_some _ _).mp said) (silent body message spelled)

theorem transform_of_refused (refused : 400 ≤ response.status) :
    config.transform response outside =
      .ok (some (config.errorNode response (response.json.toOption.bind Json.asObject?)),
        outside) := by
  unfold transform
  exact if_pos refused

/-- Where the body of a response that is accepted spells an object, the key of success
decides. -/
theorem transform_of_accepted (accepted : response.Accepted) (spelled : response.Spells body) :
    config.transform response outside =
      match body.find? config.successKey with
      | some session => .ok (some (.success ⟨body, some ⟨.json, session⟩⟩), outside)
      | none => (config.template response body).map fun template =>
          let (actions, after) := config.actions.elim ([], outside) (· body outside)
          (some (.continuation ⟨body, actions, template, none⟩), after) := by
  have unrefused : ¬ 400 ≤ response.status := by
    unfold Response.Accepted at accepted
    omega
  have success := response.accepted_iff.mpr accepted
  unfold transform
  rw [if_neg unrefused, (response.object_iff_spells _).mpr spelled]
  dsimp only
  rw [success]
  cases held : body.find? config.successKey with
  | some session => rfl
  | none =>
      dsimp only [stepNode, stepActions]
      cases config.actions with
      | none => cases config.template response body <;> rfl
      | some factory => cases config.template response body <;> rfl

theorem transform_of_other (unrefused : response.status < 400)
    (other : ∀ body, response.Accepted → ¬ response.Spells body) :
    config.transform response outside = .ok (none, outside) := by
  unfold transform
  rw [if_neg (Nat.not_le.mpr unrefused)]
  cases taken : response.json.toOption.bind Json.asObject? with
  | none => rfl
  | some body =>
      have unaccepted : response.isSuccess = false := by
        rw [Bool.eq_false_iff]
        intro success
        exact other body (response.accepted_iff.mp success)
          ((response.object_iff_spells body).mp taken)
      dsimp only
      rw [unaccepted]
      rfl

private theorem classified_transform (config : JsonTransformConfig Act Ω) (response : Response)
    (outside : Ω) :
    config.Classified response outside (config.transform response outside) := by
  by_cases refused : 400 ≤ response.status
  · rw [transform_of_refused refused]
    by_cases told : ∃ body message, response.Spells body ∧
        body.find? config.messageKey = some (.string message)
    · obtain ⟨body, message, spelled, said⟩ := told
      rw [(response.object_iff_spells _).mpr spelled, errorNode_of_said said]
      exact .rejected refused spelled said
    · have silent : ∀ body message, response.Spells body →
          body.find? config.messageKey ≠ some (.string message) :=
        fun body message spelled said => told ⟨body, message, spelled, said⟩
      rw [errorNode_of_silent silent]
      exact .failed refused silent
  · by_cases made : ∃ body, response.Accepted ∧ response.Spells body
    · obtain ⟨body, accepted, spelled⟩ := made
      rw [transform_of_accepted accepted spelled]
      cases held : body.find? config.successKey with
      | some session => exact .completed accepted spelled held
      | none =>
          dsimp only
          cases expected : config.template response body with
          | ok template =>
              exact .continued accepted spelled held ((template_iff_onward _).mp expected) rfl
          | error cause =>
              exact .stranded accepted spelled held ((template_iff_onward _).mp expected)
    · have unrefused := Nat.not_le.mp refused
      have other : ∀ body, response.Accepted → ¬ response.Spells body :=
        fun body accepted spelled => made ⟨body, accepted, spelled⟩
      rw [transform_of_other unrefused other]
      exact .declined unrefused other

private theorem transform_of_classified {result : Except Error (Option (Node Act) × Ω)}
    (classified : config.Classified response outside result) :
    config.transform response outside = result := by
  cases classified with
  | rejected refused spelled said =>
      rw [transform_of_refused refused, (response.object_iff_spells _).mpr spelled,
        errorNode_of_said said]
  | failed refused silent =>
      rw [transform_of_refused refused, errorNode_of_silent silent]
  | completed accepted spelled held => rw [transform_of_accepted accepted spelled, held]
  | continued accepted spelled unfinished onward acted =>
      rw [transform_of_accepted accepted spelled, unfinished,
        (template_iff_onward _).mpr onward]
      dsimp only [Except.map]
      rw [acted]
  | stranded accepted spelled unfinished onward =>
      rw [transform_of_accepted accepted spelled, unfinished,
        (template_iff_onward _).mpr onward]
      rfl
  | declined unrefused other => exact transform_of_other unrefused other

/-- A response comes to what it is classified as and to nothing else. With a status of 400 or
more that is a node, and an error just if the body spells an object with a message. -/
theorem transform_classification (config : JsonTransformConfig Act Ω) (response : Response)
    (outside : Ω) :
    (∀ result, config.transform response outside = result ↔
      config.Classified response outside result) ∧
    (400 ≤ response.status → ∃ node,
      config.transform response outside = .ok (some node, outside) ∧
        ((∃ error, node = .error error) ↔ ∃ body message, response.Spells body ∧
          body.find? config.messageKey = some (.string message))) := by
  constructor
  · intro result
    constructor
    · rintro rfl
      exact classified_transform config response outside
    · exact transform_of_classified
  · intro refused
    have classified := classified_transform config response outside
    generalize config.transform response outside = result at classified
    cases classified with
    | rejected _ spelled said =>
        exact ⟨_, rfl, fun _ => ⟨_, _, spelled, said⟩, fun _ => ⟨_, rfl⟩⟩
    | failed _ silent =>
        refine ⟨_, rfl, ?_, ?_⟩
        · rintro ⟨_, same⟩
          cases same
        · rintro ⟨body, message, spelled, said⟩
          exact absurd said (silent body message spelled)
    | declined unrefused _ => exact absurd refused (Nat.not_le.mpr unrefused)
    | completed accepted | continued accepted | stranded accepted =>
        exact absurd refused (Nat.not_le.mpr (Nat.lt_of_le_of_lt accepted.2 (by decide)))

def complaint : Response :=
  ⟨.empty, 422, [], [0x7B, 0x22, 0x6D, 0x65, 0x73, 0x73, 0x61, 0x67, 0x65, 0x22, 0x3A, 0x22, 0x6E,
    0x6F, 0x22, 0x7D]⟩

def complaintBody : JsonObject := NameMap.empty.insert "message" (.string "no")

private theorem spells_complaint : complaint.Spells complaintBody := by
  have told : (Json.Reader.read complaint.body).toOption.any
      (Json.agrees · (.ofObject complaintBody)) = true := by decide +kernel
  exact eq_ok_of_any (fun value same => Json.eq_of_agrees same) told

theorem transform_complaint :
    (standard : JsonTransformConfig Unit Unit).transform complaint () =
      .ok (some (.error ⟨complaintBody, "no", none⟩), ()) :=
  ((transform_classification standard complaint ()).1 _).mpr
    (.rejected (by decide) spells_complaint rfl)

end JsonTransformConfig

end GuidedLogin
