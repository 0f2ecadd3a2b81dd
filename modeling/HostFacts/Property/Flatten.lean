import HostFacts.Fault

/-!
# Properties of nested mappings

Properties have names and texts only. A nested mapping is flattened: the name of a leaf is the path
to it with points between the keys. A leaf that is null gives no property, a truth value gives its
word in small letters, any other scalar its text; a leaf with several elements is a fault. Going
through a mapping that holds itself, or that lies too deep, takes more than the stack has room for.
-/

namespace HostFacts.Property

mutual

/-- The properties of the entries of a mapping, their names starting with `lead`. -/
def flattenEntries (lead : String) : List (Value × Value) → Except Fault (List (String × String))
  | [] => .ok []
  | (key, value) :: rest => do
    let name ← key.written
    let here ← flattenValue (lead ++ name) value
    let others ← flattenEntries lead rest
    return here ++ others

/-- The properties of a value under a name. -/
def flattenValue (name : String) : Value → Except Fault (List (String × String))
  | .map entries => flattenEntries (name ++ ".") entries
  | .enclosingMap => .error .endless
  | .null => .ok []
  | .bool b => .ok [(name, if b then "true" else "false")]
  | .list _ | .enclosingList => .error (.listProperty name)
  | .tuple _ => .error (.listProperty name)
  | .set _ => .error (.listProperty name)
  | v => v.written.map fun text => [(name, text)]

end

/-- The properties of a nested mapping, in order; a name may come up several times. -/
def flatten (entries : List (Value × Value)) : Except Fault (List (String × String)) :=
  flattenEntries "" entries

end HostFacts.Property
