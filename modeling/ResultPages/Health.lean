/-
The health document: which program runs, in which version, built from which commit.

It is written as an object of three strings.  It is read from such an object, whatever else
the object holds, or from an array of exactly three strings in the order name, version,
commit.
-/
import ResultPages.Commit
import ResultPages.Json

namespace ResultPages

/-- The identity of a build. -/
structure Health where
  /-- The name of the program. -/
  name : String
  /-- Its version. -/
  version : String
  /-- The identifier of the commit that it was built from. -/
  commit : String
deriving DecidableEq, Repr

/-- Why a JSON value is no health document. -/
inductive HealthError where
  | noString (found : Json)
  | noDocument (found : Json)
  | missing (field : String)
  | tooFew (length : Nat)
  | tooMany (length : Nat)

/-- The wording of an error. -/
def HealthError.message : HealthError → String
  | noString found => "invalid type: " ++ found.describe ++ ", expected a string"
  | noDocument found => "invalid type: " ++ found.describe ++ ", expected struct Health"
  | missing field => "missing field \x60" ++ field ++ "\x60"
  | tooFew n => "invalid length " ++ Nat.repr n ++ ", expected struct Health with 3 elements"
  | tooMany n => "invalid length " ++ Nat.repr n ++ ", expected fewer elements in array"

namespace Health

/-- The name of this program. -/
def program : String := "status-pages"

/-- The version of this program. -/
def release : String := "0.1.0"

/-- This program, built from the commit with a given hash, or from no commit that is known. -/
def current (commit? : Option String) : Health := ⟨program, release, commit?.getD "unknown"⟩

/-- The identity of a build in one word. -/
def appId (h : Health) : String := h.name ++ "/" ++ h.version ++ "+" ++ shortCommit h.commit

/-- The document as JSON text. -/
def json (h : Health) : String :=
  "\x7b\"name\":" ++ Json.quote h.name ++ ",\"version\":" ++ Json.quote h.version ++
    ",\"commit\":" ++ Json.quote h.commit ++ "\x7d"

/-! ### Reading -/

/-- A value that has to be a string. -/
def text : Json → Except HealthError String
  | .string s => .ok s
  | v => .error (.noString v)

/-- A field that has to be a string if it is there. -/
def textField? (v : Json) (name : String) : Except HealthError (Option String) :=
  match v.field? name with
  | none => .ok none
  | some v => (text v).map some

/-- A value that has to be there. -/
def required (name : String) : Option String → Except HealthError String
  | some s => .ok s
  | none => .error (.missing name)

/-- The document that the fields of an object hold.  Fields of a wrong type are reported
before missing ones, in the order of their names. -/
def ofObject (v : Json) : Except HealthError Health := do
  let commit ← textField? v "commit"
  let name ← textField? v "name"
  let version ← textField? v "version"
  let name ← required "name" name
  let version ← required "version" version
  let commit ← required "commit" commit
  return ⟨name, version, commit⟩

/-- The document that the items of an array hold.  Items are looked at one by one before
their number is. -/
def ofItems : List Json → Except HealthError Health
  | [] => .error (.tooFew 0)
  | [a] => do
    let _ ← text a
    .error (.tooFew 1)
  | [a, b] => do
    let _ ← text a
    let _ ← text b
    .error (.tooFew 2)
  | a :: b :: c :: rest => do
    let name ← text a
    let version ← text b
    let commit ← text c
    if rest = [] then return ⟨name, version, commit⟩ else .error (.tooMany (3 + rest.length))

/-- The document that a JSON value holds. -/
def ofJson (v : Json) : Except HealthError Health :=
  match v with
  | .object .. => ofObject v
  | .array items => ofItems items
  | v => .error (.noDocument v)

end Health

end ResultPages
