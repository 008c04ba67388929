import CaseSynthesis.Command.Basic
import CaseSynthesis.Command.Outcome
import CaseSynthesis.Form.Report
import CaseSynthesis.Json.Printer
import CaseSynthesis.Settings.Loading

/-! What the commands do. -/

namespace CaseSynthesis

inductive Failure
  | settings (error : SettingsError)
  | source (path : String) (fault : FileFault)
  | program (path : String) (error : ProgramError)
  | expression (error : ExpandError)
  deriving DecidableEq, Repr

def ReadError.message : ReadError → String
  | notTokens => "cannot parse string into token stream"
  | notPhrase => "unexpected token"

def ExpandError.message : ExpandError → String
  | unreadable error => error.message
  | arguments => ReadError.notPhrase.message
  | reported diagnostic => diagnostic.message
  | ident fault => fault.message

def ProgramError.message : ProgramError → String
  | unreadable => ReadError.notPhrase.message
  | item name error => "`" ++ name ++ "`: " ++ error.message

namespace Failure

def message : Failure → String
  | settings error => error.message?.getD "parse error"
  | source path fault => "cannot read " ++ path ++ ": " ++ fault.message
  | program path error => path ++ ": " ++ error.message
  | expression error => error.message

def isAbrupt : Failure → Bool
  | program _ (.item _ (.ident _)) => true
  | expression (.ident _) => true
  | _ => false

end Failure

namespace Command

def usageText : String :=
  "Usage: casegen <COMMAND>\n\nCommands:\n" ++
    "  expand [-c|--config PATH] [--format rust|json] FILE\n" ++
    "  stringify EXPR\n" ++
    "  config [-c|--config PATH] [--dump]\n"

def refuse : Refusal → Outcome
  | .misuse => { exitCode := 2, errorOutput := usageText }
  | .help => { exitCode := 0, output := usageText }
  | .version => { exitCode := 0, output := "casegen 0.1.0\n" }

def reportText (report : Report) : String :=
  "// #[" ++ report.rule.label ++ "] " ++ report.item ++ "\n" ++
    Token.print report.expanded.tokens ++ "\n\n"

def reportsText (reports : List Report) : Format → String
  | .rust => String.join (reports.map reportText)
  | .json => Json.pretty 0 (.arr (reports.map Report.toJson)) ++ "\n"

def settingsText (path : Option String) (settings : Settings) : String :=
  let place := match path with
    | some path => ": " ++ path
    | none => ""
  "✓ Configuration valid" ++ place ++ "\n\nCodegen:\n  Fallback case: " ++ settings.fallbackCase ++
    "\n  Serde path: " ++ settings.serdePath ++ "\n"

/-- What a command prints. Settings are read before anything else. -/
def print (files : Files) : Command → Except Failure String
  | expand file path format => do
    let settings ← (Settings.ofPath? files path).mapError .settings
    let source ← (files file).mapError (.source file)
    let reports ← (expandSource settings source).mapError (.program file)
    return reportsText reports format
  | stringify expression => do
    return Token.print (← (Stringified.ofSource expression).mapError .expression) ++ "\n"
  | config path dump => do
    let settings ← (Settings.ofPath? files path).mapError .settings
    return if dump then settings.document ++ "\n" else settingsText path settings

def run (files : Files) (command : Command) : Outcome :=
  match command.print files with
  | .ok output => { exitCode := 0, output }
  | .error failure =>
    { exitCode := if failure.isAbrupt then 101 else 1
      errorOutput := "Error: " ++ failure.message ++ "\n" }

def runArguments (environment : String → Option String) (files : Files) (arguments : List String) :
    Outcome :=
  match ofArguments environment arguments with
  | .ok command => command.run files
  | .error refusal => refuse refusal

def paths : Command → List String
  | expand file settings _ => [settings.getD Settings.fileName, file]
  | stringify _ => []
  | config settings _ => [settings.getD Settings.fileName]

end Command

end CaseSynthesis
