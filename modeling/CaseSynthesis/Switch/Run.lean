import CaseSynthesis.Switch.Basic

/-! Running a switch on a string or a case. -/

namespace CaseSynthesis

inductive Value
  | str (value : String)
  | case (name : String)
  deriving DecidableEq, Repr

def Value.kindText : Value → String
  | str _ => "a string"
  | case _ => "a case"

def Pattern.kindText : Pattern → String
  | str _ => "string"
  | case _ => "case"
  | rawValueOf _ => "raw value"

inductive SwitchError
  | mismatch (pattern : Pattern) (subject : Value)
  | missingAccessor (case : String)
  | notAString (assigned : String)
  deriving DecidableEq, Repr

def SwitchError.message : SwitchError → String
  | mismatch pattern subject =>
    "pattern " ++ pattern.kindText ++ " cannot be compared with " ++ subject.kindText
  | missingAccessor case => "raw value of case `" ++ case ++ "` requested without an accessor"
  | notAString assigned => "accessor produced `" ++ assigned ++ "` instead of a string"

def Pattern.test (rawValue : String → Except SwitchError String) (pattern : Pattern)
    (value : Value) : Except SwitchError Bool :=
  match pattern, value with
  | .str expected, .str actual => .ok (expected == actual)
  | .case expected, .case actual => .ok (expected == actual)
  | .rawValueOf name, .str actual => do return (← rawValue name) == actual
  | pattern, value => .error (.mismatch pattern value)

def selectBranch (test : Pattern → Except SwitchError Bool) (default : Branch) :
    List Arm → Except SwitchError Branch
  | [] => .ok default
  | arm :: rest => do
    if ← test arm.pattern then return arm.branch
    selectBranch test default rest

namespace Switch

def runWith (rawValue : String → Except SwitchError String) (switch : Switch) (value : Value) :
    Except SwitchError Branch :=
  selectBranch (fun pattern => pattern.test rawValue value) switch.default switch.arms

/-- The raw value of a case by an accessor. The accessor itself can look no raw value up. -/
def rawValue (accessor : Option Switch) (name : String) : Except SwitchError String := do
  match accessor with
  | none => throw (.missingAccessor name)
  | some accessor =>
    match ← accessor.runWith (fun name => .error (.missingAccessor name)) (.case name) with
    | .returnStr value => return value
    | .assignCase assigned => throw (.notAString assigned)

def run (accessor : Option Switch) (switch : Switch) (value : Value) :
    Except SwitchError Branch :=
  switch.runWith (rawValue accessor) value

end Switch

end CaseSynthesis
