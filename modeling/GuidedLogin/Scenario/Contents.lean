/-
Steps on shared values: what each finds, and what it leaves behind.
-/
import GuidedLogin.Scenario.Report

namespace GuidedLogin.Scenario

inductive Finding where
  | nothing
  | truth (value : Bool)
  | number (value : Nat)
  | text (value : String)
  | names (values : List String)
  | stored (value : Option (Valued Action))

def Finding.report (world : World) : Finding → Json
  | .nothing => .null
  | .truth value => .bool value
  | .number value => .ofNat value
  | .text value => .string value
  | .names values => Json.strings values
  | .stored value => Report.option (Report.plain world) value

namespace ContextStep

/-- Takes a step; one that fails leaves the values alone. -/
def apply (context : Context Action) : ContextStep → Except Error (Finding × Context Action)
  | .remove key => .ok (.truth (context.contains key), context.erase key)
  | .contains key => .ok (.truth (context.contains key), context)
  | .keys => .ok (.names context.names, context)
  | .size => .ok (.number context.size, context)
  | .isEmpty => .ok (.truth context.isEmpty, context)
  | .clear => .ok (.nothing, ∅)
  | .inspect => .ok (.text (Inspect.context context), context)
  | .set key datum => .ok (.nothing, context.set key datum.kind datum.value)
  | .get key kind =>
      (context.get key kind).map fun found =>
        (.stored (found.map fun value => ⟨kind, value⟩), context)
  | .getOr key fallback =>
      (context.getOr key fallback.kind fallback.value).map fun value =>
        (.stored (some ⟨fallback.kind, value⟩), context)
  | .update key datum =>
      (context.update key datum.kind datum.merge).map fun updated =>
        (.stored (some ⟨datum.kind, updated.1⟩), updated.2)

end ContextStep

def lookUp (step : ContextStep) : Proc (Common Action World) Finding :=
  Proc.tryStep fun common =>
    (step.apply common.context).map fun taken =>
      (taken.1, { common with context := taken.2 })

namespace Action

/-- How an action adapts a request, if it does. A field sets the field of its name in
the JSON body. -/
def adapter? : Action → Option (Request → Proc (Common Action World) Request)
  | .field name cell => some fun request =>
      .read fun common =>
        .done (request.withJsonField name (.string (common.outside.cell cell)))
  | .label _ => none
  | .script adaptation => some fun request => do
      if let some cause := adaptation.failure then Proc.throw cause
      let request ← match adaptation.lookUp with
        | none => pure request
        | some step => do
            let finding ← lookUp step
            let common ← Proc.state
            pure (request.withJsonField "ctx" (finding.report common.outside))
      Proc.ofExcept (RequestStep.applyAll adaptation.steps request)

def name (scripted : String) : Action → String
  | .field name _ => name
  | .label text => text
  | .script _ => scripted

end Action

end GuidedLogin.Scenario
