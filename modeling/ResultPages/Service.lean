/-
The service: which answer a request gets, and what is logged about it.

There are four routes, the two result pages, the health document and the description of the
service.  A path names a route only octet for octet.  A request goes through three stages:

* its path and its method choose a handler: the one of a route that has the method, or one that
  refuses or finds nothing;
* the handler is called through all layers, whatever handler it is;
* the answer is finished: a refusal names the methods that the route has, the length of the
  body is told, and `HEAD` gets no body.
-/
import ResultPages.Service.Layer

namespace ResultPages

/-- What a path can lead to. -/
inductive Route where
  | page (flow : Flow)
  | health
  | description
deriving DecidableEq, Repr

namespace Route

/-- All routes. -/
def all : List Route := [page .confirmation, page .passwordReset, health, description]

/-- The path of a route. -/
def path : Route → String
  | page f => f.route
  | health => "/health"
  | description => "/openapi.json"

/-- The route that a path leads to. -/
def ofPath? (path : Octets) : Option Route := all.find? fun r => Octets.ofString r.path = path

/-- The methods of a route.  The handler for `GET` serves `HEAD` too. -/
def methods : Route → List String
  | health => ["GET", "HEAD", "OPTIONS"]
  | _ => ["GET", "HEAD"]

/-- The header that names the methods of a route. -/
def allow (r : Route) : Header :=
  .ofText "allow" (String.intercalate "," r.methods)

end Route

/-- What a service is made of. -/
structure Service where
  /-- The hash of the commit that it was built from, if one is known. -/
  commit? : Option String
  /-- The title of its pages. -/
  title : String
deriving DecidableEq, Repr

namespace Service

/-- The build of a service. -/
def build (s : Service) : Health := .current s.commit?

/-- The handler of a route. -/
def handler (s : Service) : Route → Handler
  | .page f => .page s.title f
  | .health => .health s.build
  | .description => .description

/-- The handler for a request. -/
def choose (s : Service) (r : Request) : Handler :=
  match Route.ofPath? r.target.path with
  | none => .notFound
  | some route => if r.method ∈ route.methods then s.handler route else .notAllowed

/-- The methods to name to a request that has none of them. -/
def allow? (r : Request) : Option Header :=
  match Route.ofPath? r.target.path with
  | none => none
  | some route => if r.method ∈ route.methods then none else some route.allow

/-- The header with the length of a body. -/
def lengthHeader (body : String) : Header :=
  .ofText "content-length" (Nat.repr body.utf8ByteSize)

/-- Finishes an answer. -/
def finish (r : Request) (a : Response) : Response :=
  let named := match allow? r with
    | some allow => allow.offer a.headers
    | none => a.headers
  ⟨a.status, (lengthHeader a.body).offer named, if r.method = "HEAD" then "" else a.body⟩

/-- What a request comes to. -/
def reply (s : Service) (fresh : Ulid) : Handler := fun r =>
  (Layer.stack fresh (s.choose r) r).mapResponse (finish r)

/-- The answer to a request. -/
def answer (s : Service) (fresh : Ulid) (r : Request) : Response := (s.reply fresh r).response

/-- What is logged about a request. -/
def log (s : Service) (fresh : Ulid) (r : Request) : List LogRecord := (s.reply fresh r).log

end Service

end ResultPages
