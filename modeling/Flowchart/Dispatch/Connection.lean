/-
# Connections

Where a model is reached, which model it is, and with which credential.  A blank
credential is none.
-/
import Flowchart.Dispatch.Strategy
import Flowchart.Text.Quoted

namespace Flowchart

/-- How a model is reached. -/
structure Connection where
  endpoint : Text
  model : Text
  credential : Option Text
deriving DecidableEq, Repr

namespace Connection

/-- The model that is asked unless another one is named. -/
def defaultModel : Text := "gemini-2.5-flash".toList

/-- Where hosted models are reached. -/
def hostedEndpoint : Text := "https://generativelanguage.googleapis.com/v1beta".toList

/-- Where local models are reached. -/
def localEndpoint : Text := "http://localhost:8080".toList

/-- The endpoint of a strategy. -/
def endpointOf : Strategy → Text
  | .onSite => localEndpoint
  | .ruleBased | .hosted => hostedEndpoint

/-- The connection of a strategy, without a credential. -/
def ofStrategy (s : Strategy) : Connection :=
  ⟨endpointOf s, defaultModel, none⟩

/-- A value that is more than blanks. -/
def visible (value : Text) : Option Text :=
  if value.isBlankText then none else some value

/-- The connection with another credential. -/
def withCredential (c : Connection) (credential : Text) : Connection :=
  { c with credential := visible credential }

/-- The variables by which a connection is set up. -/
inductive Variable
  | endpoint
  | model
  | credential
  | olderCredential
deriving DecidableEq, Repr

namespace Variable

/-- The name of a variable. -/
def name : Variable → Text
  | endpoint => "PROSECHART_MODEL_ENDPOINT".toList
  | model => "PROSECHART_MODEL".toList
  | credential => "PROSECHART_API_KEY".toList
  | olderCredential => "GEMINI_API_KEY".toList

end Variable

/-- The connection of a strategy, set up by variables.  A variable that is blank counts
as not set. -/
def ofVariables (s : Strategy) (lookup : Text → Option Text) : Connection :=
  let value (v : Variable) := (lookup v.name).bind visible
  { endpoint := (value .endpoint).getD (endpointOf s)
    model := (value .model).getD defaultModel
    credential := value .credential <|> value .olderCredential }

/-- The connection as logs show it: without the credential. -/
def debugText (c : Connection) : Text :=
  let credential :=
    match c.credential with
    | some _ => "Some(".toList ++ Text.quoted "<redacted>".toList ++ [')']
    | none => "None".toList
  "ModelConnection \x7b endpoint: ".toList ++ c.endpoint.quoted ++ ", model: ".toList
    ++ c.model.quoted ++ ", credential: ".toList ++ credential ++ " \x7d".toList

end Connection

end Flowchart
