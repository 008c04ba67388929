import CaseSynthesis.Json.Basic

/-! How records and alternatives are found in JSON values.

A record is an object, whose unknown fields do not matter, or an array of its fields in order. An
alternative is given in one of three ways: by a tag among the fields of its record, by a tag next to
its content, or by a name that stands alone or is the only field of an object. -/

namespace CaseSynthesis.Json

/-- The fields of a record, given as an object or as an array. -/
def record? (names : List String) : Json → Option (List (String × Json))
  | obj fields => some fields
  | arr elements => if elements.length ≤ names.length then some (names.zip elements) else none
  | _ => none

/-- The tag of an alternative and its record. In an array the tag comes first. -/
def tagged? (tag : String) : Json → Option (String × Json)
  | obj fields => do
    let name ← field? tag fields
    return (← name.str?, obj (fields.filter fun field => field.1 != tag))
  | arr (name :: rest) => do return (← name.str?, arr rest)
  | _ => none

def alternative? : Json → Option (String × Option Json)
  | str name => some (name, none)
  | obj ((name, value) :: rest) =>
    if rest.all fun field => field.1 == name then some (name, (field? name rest).getD value)
    else none
  | _ => none

/-- Whether nothing is given with a name. Inside a record that has a tag, an empty object counts as
nothing too. -/
def isUnit (inTagged : Bool) : Option Json → Bool
  | none => true
  | some null => true
  | some (obj []) => inTagged
  | _ => false

def unitName? (inTagged : Bool) (json : Json) : Option String := do
  let (name, content) ← json.alternative?
  if isUnit inTagged content then some name else none

def adjacent? (inTagged : Bool) (tag content : String) (json : Json) : Option (String × Json) := do
  let fields ← json.record? [tag, content]
  let name ← field? tag fields
  return (← name.unitName? inTagged, ← field? content fields)

def list? {α : Type} (read : Json → Option α) (json : Json) : Option (List α) := do
  (← json.arr?).mapM read

/-- A field that may be missing, but may not be null. -/
def optional? {α : Type} (read : Json → Option α) (missing : α) (name : String)
    (fields : List (String × Json)) : Option α :=
  match field? name fields with
  | some value => read value
  | none => some missing

def required? {α : Type} (read : Json → Option α) (name : String)
    (fields : List (String × Json)) : Option α := do read (← field? name fields)

mutual

def depth : Json → Nat
  | arr elements => depthAll elements + 1
  | obj fields => depthFields fields + 1
  | _ => 1

def depthAll : List Json → Nat
  | [] => 0
  | value :: rest => max (depth value) (depthAll rest)

def depthFields : List (String × Json) → Nat
  | [] => 0
  | (_, value) :: rest => max (depth value) (depthFields rest)

end

end CaseSynthesis.Json
