import Projection.Json.Reader
import Projection.QueryError

set_option autoImplicit false

namespace Projection

inductive Failure where
  | query (error : QueryError)
  /-- A file is missing, is a directory or is not UTF-8. -/
  | unreadable
  | data (fault : Json.Fault)
  | config
  /-- An environment file gives a variable a value that no variable can have. -/
  | environment
  | logFilter
  deriving DecidableEq, Repr

namespace Failure

def message : Failure → String
  | query error => error.message
  | unreadable => "the file cannot be read"
  | data .truncated => "the data file ends too early"
  | data .malformed => "the data file is not JSON"
  | data .unfit => "the data file holds other data"
  | config => "the configuration file is not valid"
  | environment => "a variable cannot hold the character NUL"
  | logFilter => "the log filter cannot be cut inside a character"

/-- Failures are reported with the code 1. A variable that cannot be set and a log filter that
cannot be cut stop the program at once. -/
def exitCode : Failure → Nat
  | environment | logFilter => 101
  | _ => 1

end Failure

end Projection
