/-! JSON values. An object keeps its fields in the order they were written in, repeated ones
included; the last of those that share a name is the one that counts. -/

namespace CaseSynthesis

inductive Json
  | null
  | bool (value : Bool)
  | number (text : String)
  | str (value : String)
  | arr (elements : List Json)
  | obj (fields : List (String × Json))

namespace Json

def field? (name : String) (fields : List (String × Json)) : Option Json :=
  (fields.reverse.find? fun field => field.1 == name).map Prod.snd

def get? (name : String) : Json → Option Json
  | obj fields => field? name fields
  | _ => none

def str? : Json → Option String
  | str value => some value
  | _ => none

def bool? : Json → Option Bool
  | bool value => some value
  | _ => none

def arr? : Json → Option (List Json)
  | arr elements => some elements
  | _ => none

def isNull : Json → Bool
  | null => true
  | _ => false

def nat? : Json → Option Nat
  | number text => if text.toList.all Char.isDigit then text.toNat? else none
  | _ => none

end Json

end CaseSynthesis
