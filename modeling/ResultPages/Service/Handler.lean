/-
Handlers: what answers a request and says in the log what it did.

The page of a flow is chosen by the query alone.  The health document is written for `GET`
alone, but for every method the build is named in a header.  A build that cannot stand in a
header is left out there, and the log says so.
-/
import ResultPages.Health
import ResultPages.Http.Message
import ResultPages.Log.Record
import ResultPages.Page
import ResultPages.Query
import ResultPages.Service.Description

namespace ResultPages

/-- What a request comes to. -/
structure Reply where
  /-- The answer. -/
  response : Response
  /-- What is logged, in order. -/
  log : List LogRecord
deriving DecidableEq, Repr

/-- The reply with another answer. -/
def Reply.mapResponse (f : Response → Response) (p : Reply) : Reply :=
  { p with response := f p.response }

/-- What answers requests. -/
abbrev Handler : Type := Request → Reply

/-- The answer with the page of a flow for a query. -/
def pageResponse (f : Flow) (title : String) (query : Option Octets) : Response :=
  ⟨200, [.ofText "content-type" "text/html; charset=utf-8"],
    (Page.ofStatus f title (query.bind Query.status?)).html⟩

/-- What is logged about a status. -/
def statusLog (f : Flow) (status : Option String) : List LogRecord :=
  match status with
  | some s => if Outcome.Unrecognized f (some s) then [.unrecognizedStatus f s] else []
  | none => []

/-- The health document: with a body for `GET`, and with the build in a header for every
method. -/
def healthReply (build : Health) (method : String) : Reply :=
  let document : Response :=
    if method = "GET" then ⟨200, [.ofText "content-type" "application/json"], build.json⟩
    else .bare 200 []
  match Header.ofText? "x-app" build.appId with
  | some app => ⟨document.mapHeaders app.set, []⟩
  | none => ⟨document, [.buildSkipped RequestError.invalidHeaderValue.message]⟩

/-- The answer with the health document. -/
def healthResponse (build : Health) (method : String) : Response :=
  (healthReply build method).response

/-- The answer with the description of the service. -/
def descriptionResponse : Response :=
  ⟨200, [.ofText "content-type" "application/json"], serviceDescription⟩

namespace Handler

/-- Shows the page of a flow. -/
def page (title : String) (f : Flow) : Handler := fun r =>
  ⟨pageResponse f title r.target.query, statusLog f (r.target.query.bind Query.status?)⟩

/-- Sends the health document. -/
def health (build : Health) : Handler := fun r => healthReply build r.method

/-- Sends the description of the service. -/
def description : Handler := fun _ => ⟨descriptionResponse, []⟩

/-- Says that nothing is there. -/
def notFound : Handler := fun _ => ⟨.bare 404 [], []⟩

/-- Says that the method is not one of those that a route has. -/
def notAllowed : Handler := fun _ => ⟨.bare 405 [], []⟩

end Handler

end ResultPages
