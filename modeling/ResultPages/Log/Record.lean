/-
What the service logs about a request.

There is one record for the request itself, with its path and its identifier.  There is
another one if a page was asked for with a status that its flow does not know; the status
is quoted, so that nothing in it can pass for the end of the line.  And there is one if the
build cannot be named in an answer.
-/
import ResultPages.Flow
import ResultPages.Log.Level
import ResultPages.Text.Quoted

namespace ResultPages

/-- A record of the log. -/
inductive LogRecord where
  | request (path requestId : String)
  | unrecognizedStatus (flow : Flow) (status : String)
  | buildSkipped (cause : String)
deriving DecidableEq, Repr

namespace LogRecord

/-- The level of a record. -/
def level : LogRecord → LogLevel
  | request .. => .debug
  | unrecognizedStatus .. => .debug
  | buildSkipped _ => .warn

/-- The name under which the record of a request is opened. -/
def requestName : String := "http-request"

/-- The fields of a record. -/
def fields : LogRecord → List (String × String)
  | request path requestId => [("path", path), ("request_id", requestId)]
  | unrecognizedStatus flow status =>
    [("flow", flow.name), ("message", "unrecognized status, rendering failure"),
      ("status", String.ofList (Quoted.present status.toList))]
  | buildSkipped cause => [("message", "X-App header skipped: " ++ cause)]

end LogRecord

end ResultPages
