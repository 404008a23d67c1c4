import AgentOperator.Json.Basic

/-!
# Merge patches

A merge patch is a value that describes changes: a field that is null removes
the field, an object is merged field by field, and anything else replaces what
was there.
-/

namespace AgentOperator.Json

mutual

def patched : Json → Json → Json
  | target, obj changes => obj (patchedFields (target.obj?.getD []) changes)
  | _, other => other

def patchedFields (fields : List (String × Json)) :
    List (String × Json) → List (String × Json)
  | [] => fields
  | (key, null) :: rest => patchedFields (Keyed.erase key fields) rest
  | (key, change) :: rest =>
    let old := (Keyed.get? key fields).getD null
    patchedFields (Keyed.insert key (patched old change) fields) rest

end

end AgentOperator.Json
