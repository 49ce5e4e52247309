import IPProxyPool.Lib.Table
import IPProxyPool.Model.NodeFile

/-!
# Reading a JSON value

The accessors of `serde_json::Value` that the free pool reads foreign documents with. A value
without the asked shape has nothing to read; a field given twice counts with its last value.
-/

namespace IPProxyPool.Json
open AssocTable

/-- The fields of an object. -/
def fields : Json → Option (Table String Json)
  | .obj fields => some (fields.foldl (fun t f => t.insert f.1 f.2) ∅)
  | _ => none

def get (name : String) (j : Json) : Option Json := j.fields.bind (fun t => t.lookup name)

def asStr : Json → Option String
  | .str s => some s
  | _ => none

def asArray : Json → Option (List Json)
  | .arr items => some items
  | _ => none

end IPProxyPool.Json
