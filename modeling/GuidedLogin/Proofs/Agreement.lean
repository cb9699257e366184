/-
Tests of what runs come to. Nodes whose objects hold texts only and whose templates are blank
are compared part by part (`Node.agrees`). Where a test succeeds the nodes are equal, so what a
run comes to is told by evaluating one.
-/
import GuidedLogin.Node

namespace GuidedLogin

/-- A run that passes a test which one value alone passes comes to that value. -/
theorem eq_ok_of_any {ε α : Type} {run : Except ε α} {value : α} {test : α → Bool}
    (only : ∀ other, test other = true → other = value)
    (told : run.toOption.any test = true) : run = .ok value := by
  cases run with
  | error fault => cases told
  | ok other => rw [only other told]

theorem eq_ok_of_isSome {ε : Type} {run : Except ε Unit} (told : run.toOption.isSome = true) :
    run = .ok () := by
  cases run with
  | error fault => cases told
  | ok value => rfl

/-- Do two listings hold the same texts under the same names, and nothing else? -/
def Json.sameTexts : List (String × Json) → List (String × Json) → Bool
  | [], [] => true
  | (name, .string text) :: more, (other, .string same) :: others =>
      decide (name = other ∧ text = same) && sameTexts more others
  | _, _ => false

theorem Json.eq_of_sameTexts {left right : List (String × Json)}
    (same : sameTexts left right = true) : left = right := by
  fun_induction sameTexts left right with
  | case1 => rfl
  | case2 name text more other same' others ih =>
      obtain ⟨here, behind⟩ := Bool.and_eq_true_iff.mp same
      obtain ⟨rfl, rfl⟩ := of_decide_eq_true here
      rw [ih behind]
  | case3 => cases same

def Json.agrees : Json → Json → Bool
  | .object fields, .object others => sameTexts fields others
  | _, _ => false

theorem Json.eq_of_agrees {left right : Json} (same : left.agrees right = true) : left = right := by
  unfold agrees at same
  split at same
  · rw [eq_of_sameTexts same]
  · cases same

variable {Act : Type} [DecidableEq Act]

def Request.isBlank (request : Request) : Bool :=
  match request with
  | ⟨method, none, [], [], .empty⟩ => decide (method = "GET")
  | _ => false

private theorem Request.eq_empty_of_isBlank {request : Request} (blank : request.isBlank = true) :
    request = .empty := by
  unfold isBlank at blank
  split at blank
  · rw [of_decide_eq_true blank]
    rfl
  · cases blank

namespace ContinueNode

def agrees (left right : ContinueNode Act) : Bool :=
  Json.sameTexts left.input.entries right.input.entries && left.template.isBlank &&
    right.template.isBlank && decide (left.actions = right.actions ∧ left.owner = right.owner)

theorem eq_of_agrees {left right : ContinueNode Act} (same : left.agrees right = true) :
    left = right := by
  obtain ⟨input, actions, template, owner⟩ := left
  simp only [agrees, Bool.and_eq_true, decide_eq_true_eq] at same
  obtain ⟨⟨⟨texts, blank⟩, blankToo⟩, rfl, rfl⟩ := same
  rw [Request.eq_empty_of_isBlank blank, NameMap.ext (Json.eq_of_sameTexts texts),
    ← Request.eq_empty_of_isBlank blankToo]

end ContinueNode

namespace ErrorNode

def agrees (left right : ErrorNode Act) : Bool :=
  Json.sameTexts left.input.entries right.input.entries &&
    decide (left.message = right.message) &&
    match left.retry, right.retry with
    | none, none => true
    | some step, some other => step.agrees other
    | _, _ => false

private theorem eq_of_agrees {left right : ErrorNode Act} (same : left.agrees right = true) :
    left = right := by
  obtain ⟨input, message, retry⟩ := left
  obtain ⟨otherInput, otherMessage, otherRetry⟩ := right
  simp only [agrees, Bool.and_eq_true, decide_eq_true_eq] at same
  obtain ⟨⟨texts, rfl⟩, linked⟩ := same
  cases NameMap.ext (Json.eq_of_sameTexts texts)
  split at linked
  · rfl
  · rw [ContinueNode.eq_of_agrees linked]
  · cases linked

end ErrorNode

namespace Node

def agrees : Node Act → Node Act → Bool
  | .continuation step, .continuation other => step.agrees other
  | .error fault, .error other => fault.agrees other
  | .failure (.unhandledResponse status), .failure (.unhandledResponse other) =>
      decide (status = other)
  | .failure (.custom text), .failure (.custom other) => decide (text = other)
  | _, _ => false

theorem eq_of_agrees {left right : Node Act} (same : left.agrees right = true) : left = right := by
  unfold agrees at same
  split at same
  · rw [ContinueNode.eq_of_agrees same]
  · rw [ErrorNode.eq_of_agrees same]
  · rw [of_decide_eq_true same]
  · rw [of_decide_eq_true same]
  · cases same

theorem eq_ok_of_agrees {ε : Type} {run : Except ε (Node Act)} {node : Node Act}
    (told : run.toOption.any (Node.agrees · node) = true) : run = .ok node :=
  eq_ok_of_any (fun _ same => eq_of_agrees same) told

end Node

end GuidedLogin
