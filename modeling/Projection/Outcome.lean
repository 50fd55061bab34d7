import Projection.Invocation

set_option autoImplicit false

namespace Projection

inductive Outcome where
  | printed (text : String)
  | failed (failure : Failure)
  | misused
  deriving DecidableEq, Repr

namespace Outcome

def ofArguments (files : Files) (environment : Environment) (arguments : List RawText) : Outcome :=
  match Invocation.ofArguments arguments with
  | none => misused
  | some invocation =>
    match invocation.run files environment with
    | .ok text => printed text
    | .error failure => failed failure

def exitCode : Outcome → Nat
  | printed _ => 0
  | failed failure => failure.exitCode
  | misused => 2

def output : Outcome → String
  | printed text => text ++ "\n"
  | _ => ""

def message : Outcome → String
  | printed _ => ""
  | failed failure => "Error: " ++ failure.message
  | misused => "Error: wrong arguments"

end Outcome

end Projection
