/-
Causes of failure. The engine states its own causes; those of hooks, adapters
and transports travel through it unchanged, perhaps under an explanation.
`Error.message` is the one place where causes become text.
-/
import GuidedLogin.Elapsed
import GuidedLogin.Json.Fault
import GuidedLogin.Text.Utf8
import GuidedLogin.Url.Basic

namespace GuidedLogin

inductive ResponseFault where
  | notText (fault : Text.Utf8.Invalid)
  | notJson (fault : Json.ReadError)
  | badLink (link : String) (fault : Url.Fault)
  | stated (detail : String)

inductive ConfigurationFault where
  | badUrl (url : String) (fault : Url.Fault)
  | stated (detail : String)

inductive NetworkFault where
  | malformedHeader
  | unsupportedAddress (url : String)
  | unreachable (url : String)
  deriving DecidableEq, Repr

inductive Error where
  | unhandledResponse (status : Nat)
  | api (status : Nat) (body : String)
  | invalidResponse (fault : ResponseFault)
  | missingUrl
  | timeout (limit : Elapsed)
  | terminalNode (kind : String)
  | detachedNode
  | typeMismatch (key expected actual : String)
  | panicked (text : String)
  | configuration (fault : ConfigurationFault)
  | transport (source : Error)
  | custom (text : String)
  | json (fault : Json.ReadError)
  | network (fault : NetworkFault)
  | unanswered (method url : String)
  | explained (text : String) (cause : Error)

def ResponseFault.message : ResponseFault → String
  | .notText fault => "body is not UTF-8: " ++ fault.message
  | .notJson fault => "body is not JSON: " ++ fault.message
  | .badLink link fault => "invalid next link '" ++ link ++ "': " ++ fault.message
  | .stated detail => detail

def ConfigurationFault.message : ConfigurationFault → String
  | .badUrl url fault => "invalid url '" ++ url ++ "': " ++ fault.message
  | .stated detail => detail

def NetworkFault.message : NetworkFault → String
  | .malformedHeader => "builder error"
  | .unsupportedAddress url => "builder error for url (" ++ url ++ ")"
  | .unreachable url => "error sending request for url (" ++ url ++ ")"

namespace Error

/-- The text of a cause; of one under an explanation, the explanation. -/
def message : Error → String
  | .unhandledResponse status =>
      "Unhandled response: no module produced a node for status " ++ toString status
  | .api status body => "Server returned status " ++ toString status ++ ": " ++ body
  | .invalidResponse fault => "Invalid response: " ++ fault.message
  | .missingUrl => "Request has no target URL"
  | .timeout limit => "Request timed out after " ++ limit.render
  | .terminalNode kind => "next() called on a terminal " ++ kind ++ " node"
  | .detachedNode => "ContinueNode is not attached to a workflow"
  | .typeMismatch key expected actual =>
      "Shared context key '" ++ key ++ "' holds " ++ actual ++ ", not " ++ expected
  | .panicked text => "Hook panicked: " ++ text
  | .configuration fault => "Configuration error: " ++ fault.message
  | .transport source => "Transport error. Source: " ++ source.message
  | .custom text => text
  | .json fault => fault.message
  | .network fault => fault.message
  | .unanswered method url => "MockHttpClient: no reply queued for " ++ method ++ " " ++ url
  | .explained text _ => text

def source? : Error → Option Error
  | .transport source => some source
  | .explained _ cause => some cause
  | _ => none

end Error

end GuidedLogin
