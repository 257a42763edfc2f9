/-
Where traces are exported to.

Export is off unless the endpoint variable holds some text.  An endpoint without `://` gets
the scheme `https` and loses its slashes at the end; any other is taken as it is.  The
instance is named by a variable, or gets a fresh identifier.
-/
import ResultPages.CommandLine.Environment
import ResultPages.Http.Target
import ResultPages.Text.Blank
import ResultPages.Text.Occurrence
import ResultPages.Ulid

namespace ResultPages

/-- Where traces go, and for which instance. -/
structure Export where
  /-- The address of the collector. -/
  endpoint : String
  /-- The name of the instance. -/
  instanceId : String
deriving DecidableEq, Repr

namespace Export

/-- The variable for the endpoint. -/
def endpointVariable : String := "OTEL_EXPORTER_OTLP_ENDPOINT"

/-- The variable for the instance. -/
def instanceVariable : String := "OTEL_SERVICE_INSTANCE_ID"

/-- What stands between the scheme and the authority of an address. -/
def schemeMark : List Char := "://".toList

/-- The scheme of an address that names none. -/
def defaultScheme : List Char := "https://".toList

/-- The endpoint with a scheme. -/
def normalize (endpoint : List Char) : List Char :=
  if occursIn schemeMark endpoint then endpoint
  else defaultScheme ++ trimEnd (· = '/') endpoint

/-- The export that the environment asks for. -/
def ofEnvironment (fresh : Ulid) (env : Environment) : Option Export :=
  match env.text? endpointVariable with
  | none => none
  | some endpoint =>
    if endpoint.toList.all isBlank then none
    else
      some ⟨String.ofList (normalize endpoint.toList),
        (env.text? instanceVariable).getD fresh.toText⟩

/-- The domain for which the certificate of an `https` endpoint has to be valid: what stands
behind the scheme, up to the first slash or colon. -/
def tlsDomain? (e : Export) : Option String :=
  let cs := e.endpoint.toList
  if defaultScheme.isPrefixOf cs then
    match (cs.drop defaultScheme.length).takeWhile fun c => c ≠ '/' ∧ c ≠ ':' with
    | [] => none
    | domain => some (String.ofList domain)
  else none

/-- Why the exporter cannot be built.  It reads the endpoint variable itself, as it stands. -/
def failure? (env : Environment) : Option TargetError :=
  match Target.parse ((env.get? endpointVariable).getD []) with
  | .ok _ => none
  | .error e => some e

end Export

end ResultPages
