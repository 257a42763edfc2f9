/-
Layers: what is put around every handler.

A layer makes a handler of a handler.  It may change the request before the inner handler gets
it, answer in its place, and change what comes back.  There are four, the outermost first:

* a request without an identifier gets a fresh one;
* the answer gets the identifier of the request;
* the request is logged;
* every origin may read the answer, and the question which methods other sites may use, put
  by the method `OPTIONS`, is answered here.
-/
import ResultPages.Service.Handler
import ResultPages.Ulid

namespace ResultPages

/-- What can be put around a handler. -/
abbrev Layer : Type := Handler → Handler

namespace Layer

/-! ### Identifiers -/

/-- The header with the identifier of a request. -/
def idName : String := "x-request-id"

/-- Gives a request an identifier if it has none. -/
def provideId (fresh : Ulid) : Layer := fun inner r =>
  match Header.ofText? idName fresh.toText with
  | some h => inner { r with headers := h.offer r.headers }
  | none => inner r

/-- Gives an answer the identifier of its request if it has none. -/
def returnId : Layer := fun inner r =>
  match r.header? idName with
  | some id => (inner r).mapResponse fun a => a.mapHeaders (Header.offer ⟨idName, id⟩)
  | none => inner r

/-! ### The log -/

/-- Whether an octet can be shown in the log as it is. -/
def isVisible (b : UInt8) : Bool := b == 0x09 || (0x20 ≤ b && b < 0x7F)

/-- The identifier of a request as the log shows it. -/
def shownId : Option Octets → String
  | some id => if id.all isVisible then id.toStringLossy else "none"
  | none => "none"

/-- Logs a request, before all that is logged about it further in. -/
def trace : Layer := fun inner r =>
  let reply := inner r
  let span := LogRecord.request r.target.path.toStringLossy (shownId (r.header? idName))
  { reply with log := span :: reply.log }

/-! ### Other origins -/

/-- The header by which every origin may read an answer. -/
def originHeader : Header := .ofText "access-control-allow-origin" "*"

/-- The header with the parts of a request on which the other headers hang. -/
def varyHeader : Header :=
  .ofText "vary" "origin, access-control-request-method, access-control-request-headers"

/-- The header with the methods that other sites may use. -/
def methodsHeader : Header := .ofText "access-control-allow-methods" "GET,OPTIONS"

/-- Lets every origin read the answer, and answers `OPTIONS` itself. -/
def cors : Layer := fun inner r =>
  if r.method = "OPTIONS" then ⟨.bare 200 [methodsHeader, varyHeader, originHeader], []⟩
  else
    (inner r).mapResponse fun a => a.mapHeaders fun hs => originHeader.set (hs ++ [varyHeader])

/-! ### Together -/

/-- All layers. -/
def stack (fresh : Ulid) : Layer := provideId fresh ∘ returnId ∘ trace ∘ cors

end Layer

end ResultPages
