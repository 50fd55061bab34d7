import Projection.Json.Record
import Projection.Token

set_option autoImplicit false

namespace Projection

namespace KeywordRule

def slots : List Json.Slot := [⟨"case_sensitive", Bool, Json.takeBool, some false⟩]

def ofJsonText (text : String) : Except Json.Fault KeywordRule :=
  Json.readAll ((Json.takeRecord slots).map fun (caseSensitive, _) => ⟨caseSensitive⟩) text

end KeywordRule

end Projection
