import Projection.Config
import Projection.Description
import Projection.Listing
import Projection.SampleData

set_option autoImplicit false

namespace Projection

def SampleData.load (files : Files) (config : Config) : Except Failure SampleData :=
  match config.data with
  | none => .ok demo
  | some path =>
    match files.text? path with
    | none => .error .unreadable
    | some text => (ofText text).mapError .data

inductive Mode where
  | execute
  | parseOnly
  | tokens
  deriving DecidableEq, Repr

namespace Mode

/-- The rows of a statement as JSON. No file is read for a statement that does not compile. -/
def executed (files : Files) (config : Config) (statement : String) : Except Failure String := do
  let query ← (Query.ofText config.keywords statement).mapError .query
  let compiled ← (query.compile SampleData.members 0).mapError .query
  let data ← SampleData.load files config
  let rows ← (compiled.execute data.toContext).mapError .query
  (rows.render config.style).mapError .query

def run (files : Files) (config : Config) (statement : String) : Mode → Except Failure String
  | execute => executed files config statement
  | parseOnly =>
    ((Query.ofText config.keywords statement).map (Query.render config.style)).mapError .query
  | tokens => (Listing.ofText config.keywords statement).mapError .query

end Mode

end Projection
