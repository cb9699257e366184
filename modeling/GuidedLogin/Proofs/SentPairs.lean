/-
Pairs of names and values as they are sent. The parameters of a request are read behind
those that its address has already, and the fields of a form are read back from the body of
the message that carries them, whatever characters they are made of.
-/
import GuidedLogin.Transport.Wire
import GuidedLogin.Url.Form.RoundTrip

namespace GuidedLogin

open Text

def Url.pairs (url : Url) : List (String × String) :=
  match url.query with
  | some query => Form.decode (Utf8.encode query.toList)
  | none => []

namespace Request

variable {request : Request} {url : Url}

theorem fullUrl_of_none (absent : request.url = none) : request.fullUrl = .error .missingUrl := by
  unfold fullUrl
  rw [absent]

theorem fullUrl_of_nil (target : request.url = some url) (bare : request.parameters = []) :
    request.fullUrl = .ok url := by
  unfold fullUrl
  rw [target, bare]
  rfl

/-- Parameters change nothing of an address but its query. -/
theorem fullUrl_of_ne_nil (target : request.url = some url) (more : request.parameters ≠ []) :
    request.fullUrl = .ok { url with query := some (String.ofList
      (Url.Form.appendPairs ((url.query.map String.toList).getD []) request.parameters)) } := by
  unfold fullUrl
  rw [target]
  exact if_neg (by simpa using more)

theorem exists_fullUrl (target : request.url = some url) :
    ∃ full, request.fullUrl = .ok full ∧ full = { url with query := full.query } := by
  by_cases bare : request.parameters = []
  · exact ⟨url, fullUrl_of_nil target bare, rfl⟩
  · exact ⟨_, fullUrl_of_ne_nil target bare, rfl⟩

/-- The parameters of a request are read behind the pairs of its address, of which they
change nothing else; the query it has stays in front, and no mark but those of pairs is
added to it. -/
theorem pairs_of_fullUrl (request : Request) :
    match request.url with
    | none => request.fullUrl = .error .missingUrl
    | some url =>
        ∃ full, request.fullUrl = .ok full ∧ full.pairs = url.pairs ++ request.parameters ∧
          full = { url with query := full.query } ∧
          if request.parameters = [] then full = url
          else ∃ added, full.query = some (url.query.getD "" ++ added) ∧
            ∀ c ∈ added.toList, Url.Form.isPairChar c = true := by
  cases target : request.url with
  | none => exact fullUrl_of_none target
  | some url =>
      by_cases bare : request.parameters = []
      · refine ⟨url, fullUrl_of_nil target bare, ?_, rfl, ?_⟩
        · rw [bare, List.append_nil]
        · rw [if_pos bare]
      · have own : Url.Form.decode (Utf8.encode ((url.query.map String.toList).getD [])) =
            url.pairs := by
          unfold Url.pairs
          cases url.query <;> rfl
        obtain ⟨added, same, plain⟩ := Url.Form.exists_appendPairs_eq
          ((url.query.map String.toList).getD []) request.parameters
        refine ⟨_, fullUrl_of_ne_nil target bare, ?_, rfl, ?_⟩
        · rw [← own, ← Url.Form.decode_appendPairs]
          change Url.Form.decode (Utf8.encode (String.ofList _).toList) = _
          rw [String.toList_ofList]
        · rw [if_neg bare]
          refine ⟨String.ofList added, ?_, ?_⟩
          · rw [same]
            cases url.query <;> simp
          · rwa [String.toList_ofList]

end Request

namespace Message

variable {request : Request} {url full : Url} {fields : List (String × String)}

def takes (headers : Headers) (url : Url) : Bool := url.host?.isSome && headers.all isHeader

def admits (headers : Headers) (url : Url) : Bool := takes headers url && isTarget (goal url)

def typeHeaders (body : Body) : Headers :=
  ((payload? body).map fun payload => ("content-type", payload.1)).toList

/-- The headers that a request states: those for its credentials first, and the type of its
body behind the types that it has itself. -/
def stated (request : Request) (url : Url) : Headers :=
  ((request.headers ++ typeHeaders request.body).map lower).foldl Headers.place (userHeaders url)

def drafted (request : Request) (full : Url) : Message :=
  ⟨request.method, goal full, stated request full, (payload? request.body).map Prod.snd⟩

private theorem isHeader_of_payload {body : Body} {payload : String × List UInt8}
    (typed : payload? body = some payload) : isHeader ("content-type", payload.1) = true := by
  have json : isHeader ("content-type", "application/json") = true := by decide
  have form : isHeader ("content-type", "application/x-www-form-urlencoded") = true := by decide
  cases body with
  | empty => cases typed
  | json value =>
      cases typed
      exact json
  | form fields =>
      cases typed
      exact form

private theorem start_of_none (method : String) (absent : url.host? = none) :
    Builder.start method url = .error (.network (.unsupportedAddress url.render)) := by
  unfold Builder.start
  rw [absent]
  rfl

private theorem start_of_some {host : Url.Host} (method : String)
    (present : url.host? = some host) :
    Builder.start method url = .ok ⟨method, goal url, userHeaders url, none⟩ := by
  unfold Builder.start
  rw [present]
  rfl

theorem foldl_header_error (headers : Headers) (cause : Error) :
    headers.foldl Builder.header (.error cause) = .error cause := by
  induction headers with
  | nil => rfl
  | cons header headers ih => exact ih

private theorem foldl_header_ok (headers : Headers) (message : Message) :
    headers.foldl Builder.header (.ok message) =
      if headers.all isHeader then
        .ok { message with headers := (headers.map lower).foldl Headers.place message.headers }
      else .error (.network .malformedHeader) := by
  induction headers generalizing message with
  | nil => rfl
  | cons header headers ih =>
      rw [List.foldl_cons, List.all_cons]
      change headers.foldl Builder.header (if isHeader header then _ else _) = _
      cases isHeader header with
      | true => exact ih _
      | false => exact foldl_header_error headers _

/-- A message is prepared unless its address or one of its headers is refused. -/
theorem prepare_of_fullUrl (resolved : request.fullUrl = .ok full) :
    ∃ builder, prepare request = .ok builder ∧
      match builder with
      | .ok message => takes request.headers full = true ∧ message = drafted request full
      | .error _ => takes request.headers full = false := by
  refine ⟨_, by rw [prepare, resolved, Except.map], ?_⟩
  dsimp only
  unfold takes
  cases host : full.host? with
  | none =>
      rw [start_of_none request.method host, foldl_header_error]
      cases payload? request.body <;> rfl
  | some place =>
      rw [start_of_some request.method host, foldl_header_ok]
      cases request.headers.all isHeader with
      | false => cases payload? request.body <;> rfl
      | true =>
          unfold drafted stated typeHeaders
          cases typed : payload? request.body with
          | none => simp
          | some payload =>
              simp [Builder.header, Builder.body, isHeader_of_payload typed, Except.map]

/-- A message is sent unless it cannot be prepared or its target is refused. -/
theorem ofRequest_of_fullUrl (agent : Option String) (resolved : request.fullUrl = .ok full) :
    match ofRequest agent request with
    | .ok message =>
        admits request.headers full = true ∧ message = (drafted request full).dispatched agent
    | .error _ => admits request.headers full = false := by
  obtain ⟨builder, prepared, built⟩ := prepare_of_fullUrl resolved
  unfold ofRequest admits
  rw [prepared]
  cases builder with
  | error cause =>
      dsimp only at built
      rw [built]
      rfl
  | ok message =>
      obtain ⟨taken, rfl⟩ := built
      rw [taken, Bool.true_and]
      change match (if isTarget (goal full) then _ else _ : Except Error Message) with
        | .ok message => isTarget (goal full) = true ∧ message = _
        | .error _ => isTarget (goal full) = false
      cases isTarget (goal full) with
      | false => rfl
      | true => exact ⟨rfl, rfl⟩

theorem ofRequest_of_admits (agent : Option String) (resolved : request.fullUrl = .ok full)
    (admitted : admits request.headers full = true) :
    ofRequest agent request = .ok ((drafted request full).dispatched agent) := by
  have made := ofRequest_of_fullUrl agent resolved
  cases came : ofRequest agent request with
  | error cause =>
      rw [came, admitted] at made
      cases made
  | ok message =>
      rw [came] at made
      rw [made.2]

private theorem body_of_prepare {message : Message}
    (prepared : prepare request = .ok (.ok message)) :
    message.body = (payload? request.body).map Prod.snd := by
  cases resolved : request.fullUrl with
  | error cause =>
      rw [prepare, resolved] at prepared
      cases prepared
  | ok full =>
      obtain ⟨builder, again, built⟩ := prepare_of_fullUrl resolved
      rw [prepared] at again
      cases again
      rw [built.2]
      rfl

private theorem body_of_ofRequest {agent : Option String} {message : Message}
    (made : ofRequest agent request = .ok message) :
    message.body = (payload? request.body).map Prod.snd := by
  cases resolved : request.fullUrl with
  | error cause =>
      rw [ofRequest, prepare, resolved] at made
      cases made
  | ok full =>
      have sent := ofRequest_of_fullUrl agent resolved
      rw [made] at sent
      rw [sent.2]
      rfl

private theorem eq_of_payload {others : List (String × String)} {other : Request}
    (otherForm : other.body = .form others) (form : request.body = .form fields)
    (same : (payload? other.body).map Prod.snd = (payload? request.body).map Prod.snd) :
    others = fields := by
  rw [otherForm, form] at same
  have bytes : Utf8.encode (Url.Form.encode others) = Utf8.encode (Url.Form.encode fields) :=
    Option.some.inj same
  rw [← Url.Form.decode_encode others, bytes, Url.Form.decode_encode]

/-- The bytes of a form are ASCII and its fields are read back from them, whatever the address
is. They are on the message that is prepared, unless there can be none, and on the one that is
sent. No other form makes the same bytes. -/
theorem form_of_prepare (target : request.url = some url) (form : request.body = .form fields) :
    ∃ full builder bytes, request.fullUrl = .ok full ∧ prepare request = .ok builder ∧
      payload? request.body = some ("application/x-www-form-urlencoded", bytes) ∧
      (∀ byte ∈ bytes, byte < 0x80) ∧ Url.Form.decode bytes = fields ∧
      (match builder with
        | .ok message => takes request.headers full = true ∧ message.body = some bytes
        | .error _ => takes request.headers full = false) ∧
      (∀ agent, match ofRequest agent request with
        | .ok message => admits request.headers full = true ∧ message.body = some bytes
        | .error _ => admits request.headers full = false) ∧
      ∀ other others, other.body = .form others → others ≠ fields →
        payload? other.body ≠ payload? request.body ∧
        (∀ message, prepare other = .ok (.ok message) → message.body ≠ some bytes) ∧
        ∀ agent message, ofRequest agent other = .ok message → message.body ≠ some bytes := by
  obtain ⟨full, resolved, _⟩ := Request.exists_fullUrl target
  obtain ⟨builder, prepared, built⟩ := prepare_of_fullUrl resolved
  have carried : payload? request.body =
      some ("application/x-www-form-urlencoded", Utf8.encode (Url.Form.encode fields)) := by
    rw [form]
    rfl
  have drafted : (payload? request.body).map Prod.snd =
      some (Utf8.encode (Url.Form.encode fields)) := by rw [carried, Option.map_some]
  refine ⟨full, builder, _, resolved, prepared, carried, Url.Form.ascii_encode fields,
    Url.Form.decode_encode fields, ?_, ?_, ?_⟩
  · cases builder with
    | error cause => exact built
    | ok message => exact ⟨built.1, by rw [body_of_prepare prepared, drafted]⟩
  · intro agent
    have sent := ofRequest_of_fullUrl agent resolved
    cases made : ofRequest agent request with
    | error cause =>
        rw [made] at sent
        exact sent
    | ok message =>
        rw [made] at sent
        exact ⟨sent.1, by rw [body_of_ofRequest made, drafted]⟩
  · intro other others otherForm apart
    refine ⟨?_, ?_, ?_⟩
    · intro same
      exact apart (eq_of_payload otherForm form (congrArg (Option.map Prod.snd) same))
    · intro message otherPrepared same
      rw [body_of_prepare otherPrepared, ← drafted] at same
      exact apart (eq_of_payload otherForm form same)
    · intro agent message made same
      rw [body_of_ofRequest made, ← drafted] at same
      exact apart (eq_of_payload otherForm form same)

/-! ### Fields full of marks -/

def tokenAddress : Url :=
  ⟨"https", some ⟨"", none, some (.domain "auth.example.com"), none⟩, "/token", none, none⟩

def tokenFields : List (String × String) :=
  [("redirect uri", "app://cb?x=1&y=é#+%41"), ("", ""), ("redirect uri", "")]

def tokenRequest : Request :=
  ((Request.empty.withUrl tokenAddress).withHeader "Cookie" "ST=1").withForm tokenFields

private theorem admits_tokenRequest : admits tokenRequest.headers tokenAddress = true := by
  decide +kernel

/-- The same request to an address that a message is prepared for and never sent to. -/
def fileRequest : Request := tokenRequest.withUrl { tokenAddress with scheme := "ftp" }

private theorem takes_fileRequest :
    takes fileRequest.headers { tokenAddress with scheme := "ftp" } = true ∧
    admits fileRequest.headers { tokenAddress with scheme := "ftp" } = false := by
  decide +kernel

/-- The fields are sent, and read back. -/
theorem form_of_tokenRequest :
    tokenRequest.url = some tokenAddress ∧ tokenRequest.body = .form tokenFields ∧
      (∃ message bytes, ofRequest none tokenRequest = .ok message ∧ message.body = some bytes ∧
        (∀ byte ∈ bytes, byte < 0x80) ∧ Url.Form.decode bytes = tokenFields) ∧
      ∃ message bytes, prepare fileRequest = .ok (.ok message) ∧ message.body = some bytes ∧
        Url.Form.decode bytes = tokenFields ∧ ∃ cause, ofRequest none fileRequest = .error cause := by
  refine ⟨rfl, rfl, ?_, ?_⟩
  · obtain ⟨_, _, bytes, _, _, _, ascii, decoded, _, sent, _⟩ :=
      form_of_prepare (rfl : tokenRequest.url = some tokenAddress)
        (rfl : tokenRequest.body = .form tokenFields)
    have resolved : tokenRequest.fullUrl = .ok tokenAddress := Request.fullUrl_of_nil rfl rfl
    have made := ofRequest_of_admits none resolved admits_tokenRequest
    have carried := sent none
    rw [made] at carried
    exact ⟨_, bytes, made, carried.2, ascii, decoded⟩
  · obtain ⟨full, builder, bytes, resolved, prepared, _, _, decoded, built, sent, _⟩ :=
      form_of_prepare (rfl : fileRequest.url = some { tokenAddress with scheme := "ftp" })
        (rfl : fileRequest.body = .form tokenFields)
    have same : full = { tokenAddress with scheme := "ftp" } :=
      Except.ok.inj (resolved.symm.trans rfl)
    have refused := sent none
    rw [same, takes_fileRequest.2] at refused
    rw [same, takes_fileRequest.1] at built
    cases builder with
    | error cause => cases built
    | ok message =>
        refine ⟨message, bytes, prepared, built.2, decoded, ?_⟩
        cases made : ofRequest none fileRequest with
        | error cause => exact ⟨cause, rfl⟩
        | ok message =>
            rw [made] at refused
            cases refused.1

end Message

end GuidedLogin
