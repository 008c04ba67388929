import CaseSynthesis.Json.Decode
import CaseSynthesis.Switch.Basic

/-! The JSON form of switches. -/

namespace CaseSynthesis
open Json

namespace Subject

def toJson : Subject → Json
  | parameter name => .obj [("parameter", .str name)]
  | selfValue => .str "self_value"
  | decodedString => .str "decoded_string"

def ofJson? (inTagged : Bool) (json : Json) : Option Subject := do
  let (name, content) ← json.alternative?
  match name, content with
  | "parameter", some content => return .parameter (← content.str?)
  | "parameter", none => none
  | name, content =>
    if !isUnit inTagged content then none
    else match name with
      | "self_value" => some .selfValue
      | "decoded_string" => some .decodedString
      | _ => none

end Subject

namespace Pattern

def toJson : Pattern → Json
  | str value => .obj [("kind", .str "str"), ("value", .str value)]
  | case name => .obj [("kind", .str "case"), ("value", .str name)]
  | rawValueOf name => .obj [("kind", .str "raw_value_of"), ("value", .str name)]

def ofJson? (inTagged : Bool) (json : Json) : Option Pattern := do
  let (kind, value) ← json.adjacent? inTagged "kind" "value"
  match kind with
  | "str" => return .str (← value.str?)
  | "case" => return .case (← value.str?)
  | "raw_value_of" => return .rawValueOf (← value.str?)
  | _ => none

end Pattern

namespace Branch

def toJson : Branch → Json
  | assignCase name => .obj [("kind", .str "assign_case"), ("value", .str name)]
  | returnStr value => .obj [("kind", .str "return_str"), ("value", .str value)]

def ofJson? (inTagged : Bool) (json : Json) : Option Branch := do
  let (kind, value) ← json.adjacent? inTagged "kind" "value"
  match kind with
  | "assign_case" => return .assignCase (← value.str?)
  | "return_str" => return .returnStr (← value.str?)
  | _ => none

end Branch

namespace Arm

def toJson (arm : Arm) : Json :=
  .obj [("pattern", arm.pattern.toJson), ("branch", arm.branch.toJson)]

def ofJson? (inTagged : Bool) (json : Json) : Option Arm := do
  let fields ← json.record? ["pattern", "branch"]
  return {
    pattern := ← required? (Pattern.ofJson? inTagged) "pattern" fields
    branch := ← required? (Branch.ofJson? inTagged) "branch" fields }

end Arm

namespace Switch

def toJson (switch : Switch) : Json :=
  .obj [("subject", switch.subject.toJson), ("arms", .arr (switch.arms.map Arm.toJson)),
    ("default", switch.default.toJson)]

def ofJson? (inTagged : Bool) (json : Json) : Option Switch := do
  let fields ← json.record? ["subject", "arms", "default"]
  return {
    subject := ← required? (Subject.ofJson? inTagged) "subject" fields
    arms := ← required? (list? (Arm.ofJson? inTagged)) "arms" fields
    default := ← required? (Branch.ofJson? inTagged) "default" fields }

end Switch

end CaseSynthesis
