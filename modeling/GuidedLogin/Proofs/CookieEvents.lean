/-
What is told of cookies, one thing after another: those stored are loaded, a header sets
one or ends it, all are forgotten. A cookie is live if the last event that concerns its
name set it (`Live`). The jar that events leave holds just the live cookies
(`find?_jarOf`), so attaching it sends these and no others (`replays_jarOf`).
-/
import GuidedLogin.Proofs.LastWrite
import GuidedLogin.Stock.Cookie
import GuidedLogin.Text.Utf8.Order

namespace GuidedLogin

inductive CookieEvent where
  | loaded (stored : CookieJar)
  | set (cookie : SetCookie)
  | forgotten

def Request.cookies (request : Request) : List String := request.headers.values "Cookie"

def CookieJar.texts (jar : CookieJar) : List String :=
  jar.entries.map fun cookie => Request.cookieText cookie.1 cookie.2

/-- There is one header for every cookie in a jar, in the order of the bytes of the names. -/
def CookieJar.Lists (jar : CookieJar) (headers : List String) : Prop :=
  ∃ cookies : List (String × String),
    cookies.Pairwise (fun left right =>
      Text.Utf8.encode left.1.toList < Text.Utf8.encode right.1.toList) ∧
    (∀ name value, (name, value) ∈ cookies ↔ jar.find? name = some value) ∧
    headers = cookies.map fun cookie => cookie.1 ++ "=" ++ cookie.2

theorem CookieJar.lists_texts (jar : CookieJar) : jar.Lists jar.texts := by
  refine ⟨jar.entries, ?_, fun name value => NameMap.mem_entries_iff_find? jar (name, value), rfl⟩
  apply jar.ascending.imp
  intro left right less
  exact Text.Utf8.encode_lt_encode_iff.mpr less

private theorem Request.cookies_withCookie (request : Request) (name value : String) :
    (request.withCookie name value).cookies = request.cookies ++ [cookieText name value] := by
  unfold cookies withCookie withHeader
  rw [Headers.values_append]
  simp [Headers.values, Text.sameFolded]

theorem CookieJar.cookies_attach (jar : CookieJar) (request : Request) :
    (jar.attach request).cookies = request.cookies ++ jar.texts := by
  unfold attach texts
  induction jar.entries generalizing request with
  | nil => simp
  | cons cookie rest ih =>
      rw [List.foldl_cons, ih, Request.cookies_withCookie, List.append_assoc, List.map_cons]
      rfl

namespace CookieEvent

/-- What becomes of a name, if an event concerns it: a cookie with a value, or none. -/
def effect? (event : CookieEvent) (name : String) : Option (Option String) :=
  match event with
  | .loaded stored => (stored.find? name).map some
  | .set cookie =>
      if name = cookie.name then some (if cookie.expired then none else some cookie.value)
      else none
  | .forgotten => some none

def change (jar : CookieJar) : CookieEvent → CookieJar
  | .loaded stored => jar.insertAll stored.entries
  | .set cookie => jar.apply cookie
  | .forgotten => ∅

def jarOf (events : List CookieEvent) : CookieJar := events.foldl change ∅

/-- The last event that concerns a name set it to a value. -/
def Live (events : List CookieEvent) (name value : String) : Prop :=
  ∃ earlier event later, events = earlier ++ event :: later ∧
    event.effect? name = some (some value) ∧ ∀ other ∈ later, other.effect? name = none

/-- There is one header for every live cookie, in the order of the bytes of the names. -/
def Replays (events : List CookieEvent) (headers : List String) : Prop :=
  ∃ live : List (String × String),
    live.Pairwise (fun left right =>
      Text.Utf8.encode left.1.toList < Text.Utf8.encode right.1.toList) ∧
    (∀ name value, (name, value) ∈ live ↔ Live events name value) ∧
    headers = live.map fun cookie => cookie.1 ++ "=" ++ cookie.2

variable {events : List CookieEvent} {event : CookieEvent} {name value : String}

private theorem find?_change (jar : CookieJar) (event : CookieEvent) (name : String) :
    (change jar event).find? name = (event.effect? name).getD (jar.find? name) := by
  cases event with
  | loaded stored =>
      rw [change, NameMap.find?_insertAll_entries, effect?]
      cases stored.find? name <;> rfl
  | set cookie =>
      rw [change, CookieJar.apply, effect?]
      by_cases same : name = cookie.name <;> cases cookie.expired <;> simp [same]
  | forgotten => rfl

theorem jarOf_append (earlier later : List CookieEvent) :
    jarOf (earlier ++ later) = later.foldl change (jarOf earlier) :=
  List.foldl_append

/-- The jar that events leave holds the live cookies. -/
theorem find?_jarOf (events : List CookieEvent) (name value : String) :
    (jarOf events).find? name = some value ↔ Live events name value :=
  foldl_eq_some_iff (fun event => event.effect? name) (fun jar => jar.find? name)
    (fun jar event => find?_change jar event name) rfl events

/-- The headers that the jar left by events is attached with replay them. -/
theorem replays_jarOf (events : List CookieEvent) : Replays events (jarOf events).texts := by
  obtain ⟨live, ascending, listed, same⟩ := (jarOf events).lists_texts
  exact ⟨live, ascending, fun name value => (listed name value).trans (find?_jarOf events name value),
    same⟩

end CookieEvent

end GuidedLogin
