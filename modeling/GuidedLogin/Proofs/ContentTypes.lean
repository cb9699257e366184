/-
Headers of requests as they are sent. A message has the headers of its request, each name
with its values in their order, behind the one for the user of its address; the type of its
body comes next, and the connection adds only what is not there. The type of the body is added
whatever the request says itself, so there is one content type just if the request has none.
-/
import GuidedLogin.Proofs.SentPairs

namespace GuidedLogin

namespace Headers

private theorem values_map_lower (headers : Headers) (name : String) :
    values (headers.map Message.lower) name = headers.values name := by
  have same : ∀ header : String × String,
      Text.sameFolded (Message.lower header).1 name = Text.sameFolded header.1 name := by
    intro header
    unfold Text.sameFolded Message.lower
    rw [Text.foldCase_ofList_foldCase]
  unfold values
  rw [List.filter_map, List.map_map]
  exact congrArg (List.map Prod.snd) (List.filter_congr fun header _ => same header)

end Headers

namespace Message

variable {request : Request} {url full : Url} {payload : String × List UInt8}

private theorem values_userHeaders {name : String}
    (apart : Text.sameFolded "authorization" name = false)
    (url : Url) : (userHeaders url).values name = [] := by
  unfold userHeaders
  cases url.credentials? with
  | none => rfl
  | some credentials =>
      change Headers.values [("authorization", _)] name = []
      rw [Headers.values_singleton, apart]
      rfl

/-- A header is not added where one of its name is stated. -/
theorem values_unlessStated {headers : Headers} {name : String}
    (present : headers.values name ≠ []) (added : String) (value : Option String) :
    (unlessStated headers added value).values name = [] := by
  unfold unlessStated
  cases same : Text.sameFolded added name with
  | true =>
      rw [Headers.values_congr headers same, if_neg (by simpa using present)]
      rfl
  | false =>
      split
      · cases value with
        | none => rfl
        | some value =>
            change Headers.values [(added, value)] name = []
            rw [Headers.values_singleton, same]
            rfl
      · rfl

private theorem values_added {headers : Headers} {name : String}
    (present : headers.values name ≠ [])
    (agent : Option String) (url : Url) (body : Option (List UInt8)) :
    (added agent url body headers).values name = [] := by
  unfold added
  simp only [Headers.values_append, values_unlessStated present, List.append_nil]

/-- Headers under which a request with a body of some type goes to an address: each name of
its own with its values in their order, and the type of the body behind the types that it has
itself. -/
structure Labelled (request : Request) (full : Url) (type : String) (headers : Headers) :
    Prop where
  types : headers.values "content-type" = request.headers.values "content-type" ++ [type]
  single : (headers.values "content-type").length = 1 ↔
    request.headers.values "content-type" = []
  others : ∀ name, Text.sameFolded name "content-type" = false →
    request.headers.values name ≠ [] →
    headers.values name = (userHeaders full).values name ++ request.headers.values name

private theorem values_stated (request : Request) (full : Url) (name : String) :
    (stated request full).values name = (userHeaders full).values name ++
      (request.headers.values name ++ (typeHeaders request.body).values name) := by
  unfold stated
  rw [Headers.values_foldl_place, Headers.values_map_lower, Headers.values_append]

theorem labelled_stated (full : Url) (typed : payload? request.body = some payload) :
    Labelled request full payload.1 (stated request full) := by
  have type : typeHeaders request.body = [("content-type", payload.1)] := by
    unfold typeHeaders
    rw [typed]
    rfl
  have types : (stated request full).values "content-type" =
      request.headers.values "content-type" ++ [payload.1] := by
    rw [values_stated, type, values_userHeaders (by decide), Headers.values_singleton,
      Text.sameFolded_refl]
    rfl
  refine ⟨types, ?_, ?_⟩
  · rw [types, List.length_append, ← List.length_eq_zero_iff]
    simp
  · intro name apart _
    rw [Text.sameFolded_comm] at apart
    rw [values_stated, type, Headers.values_singleton, apart]
    exact congrArg _ (List.append_nil _)

theorem Labelled.extended {type : String} {headers : Headers}
    (labelled : Labelled request full type headers) (agent : Option String) (url : Url)
    (body : Option (List UInt8)) :
    Labelled request full type (headers ++ added agent url body headers) := by
  have kept : ∀ name, headers.values name ≠ [] →
      (headers ++ added agent url body headers).values name = headers.values name := by
    intro name present
    rw [Headers.values_append, values_added present, List.append_nil]
  have types := kept "content-type" (by rw [labelled.types]; simp)
  refine ⟨types.trans labelled.types, ?_, ?_⟩
  · rw [types]
    exact labelled.single
  · intro name apart own
    have others := labelled.others name apart own
    rw [kept name (by rw [others]; simp [own]), others]

private theorem exists_payload (typed : request.body ≠ .empty) :
    ∃ payload, payload? request.body = some payload := by
  cases body : request.body with
  | empty => exact absurd body typed
  | json value => exact ⟨_, rfl⟩
  | form fields => exact ⟨_, rfl⟩

/-- A request with a body is stated, prepared if its address has a host, and sent if that can
be reached at all, under its own headers and the type of the body: one content type if it has
none itself, else more. -/
theorem contentTypes_of_ofRequest (agent : Option String) (target : request.url = some url)
    (valid : request.headers.all isHeader = true) (typed : request.body ≠ .empty) :
    ∃ full payload, request.fullUrl = .ok full ∧ payload? request.body = some payload ∧
      Labelled request full payload.1 (stated request full) ∧
      (∃ builder, prepare request = .ok builder ∧
        match builder with
        | .ok message => message.body = some payload.2 ∧ message.headers = stated request full
        | .error _ => full.host?.isSome = false) ∧
      match ofRequest agent request with
      | .ok message =>
          message.body = some payload.2 ∧ Labelled request full payload.1 message.headers
      | .error _ => (full.host?.isSome && isTarget (goal full)) = false := by
  obtain ⟨full, resolved, _⟩ := Request.exists_fullUrl target
  obtain ⟨payload, carried⟩ := exists_payload typed
  have labelled := labelled_stated full carried
  have bytes : (drafted request full).body = some payload.2 := by
    change (payload? request.body).map Prod.snd = some payload.2
    rw [carried]
    rfl
  refine ⟨full, payload, resolved, carried, labelled, ?_, ?_⟩
  · obtain ⟨builder, prepared, built⟩ := prepare_of_fullUrl resolved
    refine ⟨builder, prepared, ?_⟩
    cases builder with
    | error cause =>
        have refused : takes request.headers full = false := built
        unfold takes at refused
        rwa [valid, Bool.and_true] at refused
    | ok message =>
        obtain ⟨_, rfl⟩ := built
        exact ⟨bytes, rfl⟩
  · have made := ofRequest_of_fullUrl agent resolved
    cases came : ofRequest agent request with
    | error cause =>
        rw [came] at made
        have refused : admits request.headers full = false := made
        unfold admits takes at refused
        rwa [valid, Bool.and_true] at refused
    | ok message =>
        rw [came] at made
        obtain ⟨_, rfl⟩ := made
        exact ⟨bytes, labelled.extended agent (goal full) _⟩

/-! ### A request that states the type of its body itself -/

def statedTwice : Request :=
  ((Request.empty.withUrl tokenAddress).withHeader "Content-Type" "application/json").withJson
    (Json.ofObject ∅)

private theorem admits_statedTwice : admits statedTwice.headers tokenAddress = true := by
  decide +kernel

theorem exists_statedTwice : ∃ message, ofRequest none statedTwice = .ok message ∧
    Labelled statedTwice tokenAddress "application/json" message.headers := by
  have resolved : statedTwice.fullUrl = .ok tokenAddress := Request.fullUrl_of_nil rfl rfl
  have labelled := labelled_stated tokenAddress
    (rfl : payload? statedTwice.body = some ("application/json", _))
  exact ⟨_, ofRequest_of_admits none resolved admits_statedTwice, labelled.extended none _ _⟩

/-- It is sent with the type twice. -/
theorem contentTypes_of_statedTwice :
    statedTwice.url = some tokenAddress ∧ statedTwice.headers.all isHeader = true ∧
      ∃ message, ofRequest none statedTwice = .ok message ∧
        message.headers.values "content-type" = ["application/json", "application/json"] := by
  have valid : statedTwice.headers.all isHeader = true := by decide +kernel
  refine ⟨rfl, valid, ?_⟩
  obtain ⟨full, payload, resolved, carried, _, _, sent⟩ :=
    contentTypes_of_ofRequest none (rfl : statedTwice.url = some tokenAddress) valid nofun
  have same : full = tokenAddress := Except.ok.inj (resolved.symm.trans rfl)
  have type : payload.1 = "application/json" :=
    congrArg Prod.fst (Option.some.inj (carried.symm.trans rfl))
  subst same
  obtain ⟨message, made, _⟩ := exists_statedTwice
  rw [made] at sent
  refine ⟨message, made, ?_⟩
  rw [sent.2.types, type]
  decide +kernel

/-- A message need not have one content type. -/
theorem not_single_contentType :
    ¬ ∀ (agent : Option String) (request : Request) (message : Message),
      request.headers.all isHeader = true → request.body ≠ .empty →
      ofRequest agent request = .ok message →
      (message.headers.values "content-type").length = 1 := by
  intro one
  obtain ⟨message, made, labelled⟩ := exists_statedTwice
  have lone := one none statedTwice message (by decide +kernel) nofun made
  rw [labelled.single] at lone
  revert lone
  decide +kernel

end Message

end GuidedLogin
