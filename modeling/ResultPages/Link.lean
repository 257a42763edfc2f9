/-
Links to result pages.

A link is made from the host that the identity service was reached on.  Its first label
names that service, so it is dropped when more than two labels stand in the host; what is
left must be a bare host with an optional port.  The link leads to the page of a flow and
names an outcome of that flow by its token.

`Link.make` goes through three checks in order: something must be left, none of the
characters that separate the parts of an address may be in it, and it must be a host.
-/
import ResultPages.Flow
import ResultPages.Host.Authority
import ResultPages.Query

namespace ResultPages

/-- A link to the page that shows an outcome of a flow. -/
structure Link where
  /-- The host that serves the page. -/
  authority : Authority
  /-- The flow that has ended. -/
  flow : Flow
  /-- How it has ended. -/
  outcome : Outcome flow

/-- Why there is no link. -/
inductive LinkError where
  | unknownStatus (flow : Flow) (status : String)
  | emptyHost
  | notBare (host : String)
  | invalidHost (host : String) (cause : HostError)
deriving DecidableEq, Repr

namespace LinkError

/-- The wording of an error. -/
def message : LinkError → String
  | unknownStatus f s => "unknown status '" ++ s ++ "' for the " ++ f.name ++ " flow"
  | emptyHost => "result page host is empty"
  | notBare host => "result page host must be a bare host[:port], got: " ++ host
  | invalidHost host _ => "invalid host for result page: " ++ host

/-- What lies below an error. -/
def causes : LinkError → List String
  | invalidHost _ cause => [cause.message]
  | _ => []

end LinkError

namespace Link

/-- The characters that separate a host from the other parts of an address. -/
def delimiters : List Char := ['/', '\\', '?', '#', '@']

/-- The link for an outcome, on the host that the identity service was reached on. -/
def make (host : String) {f : Flow} (o : Outcome f) : Except LinkError Link :=
  let rest := dropSubdomain (trim host.toList)
  if rest = [] then .error .emptyHost
  else if rest.any (delimiters.contains ·) then .error (.notBare (String.ofList rest))
  else
    match Authority.parse rest with
    | .ok authority => .ok ⟨authority, f, o⟩
    | .error cause => .error (.invalidHost (String.ofList rest) cause)

/-- The link for a status.  The status is looked at before the host. -/
def ofStatus (host : String) (f : Flow) (status : String) : Except LinkError Link :=
  match Outcome.ofToken? f status with
  | some o => make host o
  | none => .error (.unknownStatus f status)

/-- The path of a link. -/
def path (l : Link) : String := l.flow.route

/-- The query of a link. -/
def query (l : Link) : String := Query.write Query.statusKey l.outcome.token

/-- The link as a web address. -/
def url (l : Link) : String :=
  "https://" ++ String.ofList l.authority.toText ++ l.path ++ "?" ++ l.query

/-- The message that the page shows when the link is followed. -/
def pageMessage (l : Link) : String :=
  (Outcome.ofStatus l.flow (Query.status? (.ofString l.query))).message

end Link

end ResultPages
