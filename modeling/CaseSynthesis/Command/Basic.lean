import CaseSynthesis.Command.Usage

/-! The commands, and the command lines that ask for them. -/

namespace CaseSynthesis

inductive Format
  | rust
  | json
  deriving DecidableEq, Repr

def Format.ofName? : String → Option Format
  | "rust" => some .rust
  | "json" => some .json
  | _ => none

inductive Command
  | expand (file : String) (settings : Option String) (format : Format)
  | stringify (expression : String)
  | config (settings : Option String) (dump : Bool)
  deriving DecidableEq, Repr

namespace Command

def names : List String := ["expand", "stringify", "config", "help"]

def settingsVariable : String := "CASEGEN_CONFIG"

def helpFlags : List (String × Flag) := [("-h", .notice .help), ("--help", .notice .help)]

def settingsFlags : List (String × Flag) :=
  [("-c", .setting "config"), ("--config", .setting "config")]

def admits (name text : String) : Bool :=
  match name with
  | "file" | "config" => text != ""
  | "format" => (Format.ofName? text).isSome
  | _ => true

def programUsage : Usage where
  flags := helpFlags ++ [("-V", .notice .version), ("--version", .notice .version)]
  operand := none
  admits := admits

def expandUsage : Usage where
  flags := helpFlags ++ settingsFlags ++ [("--format", .setting "format")]
  operand := some "file"
  admits := admits

def stringifyUsage : Usage where
  flags := helpFlags
  operand := some "expression"
  admits := admits

def configUsage : Usage where
  flags := helpFlags ++ settingsFlags ++ [("--dump", .switch "dump")]
  operand := none
  admits := admits

def required (given : Given) (name : String) : Except Refusal String :=
  match given.value? name with
  | some text => .ok text
  | none => .error .misuse

def settingsPath (environment : String → Option String) (given : Given) :
    Except Refusal (Option String) :=
  match given.value? "config" with
  | some path => .ok (some path)
  | none =>
    match environment settingsVariable with
    | some path => if admits "config" path then .ok (some path) else .error .misuse
    | none => .ok none

def ofArguments (environment : String → Option String) : List String → Except Refusal Command
  | "expand" :: rest => do
    let given ← expandUsage.read [] rest
    let settings ← settingsPath environment given
    let file ← required given "file"
    return .expand file settings (((given.value? "format").bind Format.ofName?).getD .rust)
  | "stringify" :: rest => do
    return .stringify (← required (← stringifyUsage.read [] rest) "expression")
  | "config" :: rest => do
    let given ← configUsage.read [] rest
    return .config (← settingsPath environment given) (given.value? "dump").isSome
  | "help" :: rest =>
    match rest with
    | [] => .error .help
    | [name] => .error (if names.contains name then .help else .misuse)
    | _ => .error .misuse
  | arguments => do
    let _ ← programUsage.read [] arguments
    throw .misuse

end Command

end CaseSynthesis
