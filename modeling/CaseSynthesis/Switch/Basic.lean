/-! Switches: a subject compared with patterns in order, and a branch for when none matches. -/

namespace CaseSynthesis

inductive Subject
  | parameter (name : String)
  | selfValue
  | decodedString
  deriving DecidableEq, Repr

inductive Pattern
  | str (value : String)
  | case (name : String)
  | rawValueOf (name : String)
  deriving DecidableEq, Repr

inductive Branch
  | assignCase (name : String)
  | returnStr (value : String)
  deriving DecidableEq, Repr

namespace Branch

def assignedCase? : Branch → Option String
  | assignCase name => some name
  | returnStr _ => none

def returnedStr? : Branch → Option String
  | returnStr value => some value
  | assignCase _ => none

def text : Branch → String
  | assignCase name => name
  | returnStr value => value

end Branch

structure Arm where
  pattern : Pattern
  branch : Branch
  deriving DecidableEq, Repr

structure Switch where
  subject : Subject
  arms : List Arm
  default : Branch
  deriving DecidableEq, Repr

def Switch.branchCount (switch : Switch) : Nat := switch.arms.length + 1

end CaseSynthesis
