/-
Requests and answers.

A request is well formed when its method is a token, its target reads, the names of its
headers are tokens and their values hold no control characters but tabs.  `Request.parse`
checks the parts in this order.  Names of headers are kept in lower case.
-/
import ResultPages.Http.Target

namespace ResultPages

/-! ### Headers -/

/-- Whether an octet may stand in a token. -/
def isTokenOctet (b : UInt8) : Bool := isAlphanumeric b || isOneOf "!#$%&'*+-.^_\x60|~" b

/-- Whether a text is a token. -/
def isToken (bs : Octets) : Bool := !bs.isEmpty && bs.all isTokenOctet

/-- Whether an octet may stand in the value of a header. -/
def isValueOctet (b : UInt8) : Bool := (0x20 ≤ b && b ≠ 0x7F) || b == 0x09

/-- Whether octets may be the value of a header. -/
def isValue (bs : Octets) : Bool := bs.all isValueOctet

/-- A header of a request or an answer. -/
structure Header where
  /-- The name, in lower case. -/
  name : String
  /-- The value. -/
  value : Octets
deriving DecidableEq, Repr

namespace Header

/-- A header with a text for its value. -/
def ofText (name value : String) : Header := ⟨name, Octets.ofString value⟩

/-- A header with a text for its value, if that may be the value of a header. -/
def ofText? (name value : String) : Option Header :=
  if isValue (Octets.ofString value) then some (ofText name value) else none

/-- The values of the headers with a given name, in order. -/
def valuesOf (name : String) (hs : List Header) : List Octets :=
  (hs.filter (·.name = name)).map (·.value)

/-- Some headers and one more, in the place of all others with its name. -/
def set (h : Header) (hs : List Header) : List Header := hs.filter (·.name ≠ h.name) ++ [h]

/-- Some headers and one more, if there is no other with its name. -/
def offer (h : Header) (hs : List Header) : List Header :=
  if valuesOf h.name hs = [] then hs ++ [h] else hs

end Header

/-! ### Requests and answers -/

/-- A request. -/
structure Request where
  /-- The method, as sent. -/
  method : String
  /-- What is asked for. -/
  target : Target
  /-- The headers in the order in which they were sent. -/
  headers : List Header
  /-- What follows the headers. -/
  body : Octets
deriving DecidableEq, Repr

/-- An answer. -/
structure Response where
  /-- The status code. -/
  status : Nat
  /-- The headers. -/
  headers : List Header
  /-- What follows the headers. -/
  body : String
deriving DecidableEq, Repr

namespace Response

/-- An answer without a body. -/
def bare (status : Nat) (headers : List Header) : Response := ⟨status, headers, ""⟩

/-- The answer with other headers. -/
def mapHeaders (f : List Header → List Header) (a : Response) : Response :=
  { a with headers := f a.headers }

end Response

/-- Why the parts of a request do not make one. -/
inductive RequestError where
  | invalidMethod
  | invalidTarget (cause : TargetError)
  | invalidHeaderName
  | invalidHeaderValue
deriving DecidableEq, Repr

/-- The wording of an error. -/
def RequestError.message : RequestError → String
  | invalidMethod => "invalid HTTP method"
  | invalidTarget cause => cause.message
  | invalidHeaderName => "invalid HTTP header name"
  | invalidHeaderValue => "failed to parse header value"

namespace Request

/-- Reads a header. -/
def parseHeader (name : String) (value : Octets) : Except RequestError Header :=
  let octets := Octets.ofString name
  if !isToken octets || 65535 < octets.length then .error .invalidHeaderName
  else if !isValue value then .error .invalidHeaderValue
  else .ok ⟨name.toLower, value⟩

/-- Reads a request from its parts. -/
def parse (method target : String) (headers : List (String × Octets)) (body : Octets) :
    Except RequestError Request :=
  if !isToken (Octets.ofString method) then .error .invalidMethod
  else
    match Target.parse (Octets.ofString target) with
    | .error e => .error (.invalidTarget e)
    | .ok target =>
      (headers.mapM fun h => parseHeader h.1 h.2).map fun hs => ⟨method, target, hs, body⟩

/-- The first value of a header, if the request has it. -/
def header? (r : Request) (name : String) : Option Octets :=
  (Header.valuesOf name r.headers).head?

end Request

end ResultPages
