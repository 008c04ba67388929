/-! Reading the arguments of a command: flags, their values, and what stands on its own. -/

namespace CaseSynthesis

inductive Refusal
  | misuse
  | help
  | version
  deriving DecidableEq, Repr

inductive Flag
  | notice (refusal : Refusal)
  | switch (name : String)
  | setting (name : String)
  deriving DecidableEq, Repr

structure Usage where
  flags : List (String × Flag)
  operand : Option String
  admits : String → String → Bool

/-- The values that were given, by name. That of a switch is empty. -/
abbrev Given := List (String × String)

def Given.value? (given : Given) (name : String) : Option String :=
  (given.find? fun value => value.1 == name).map Prod.snd

structure FlagArgument where
  spelling : String
  long : Bool
  attached : Option String

/-- An argument as a flag. A value is attached to a long flag by an equals sign, and to a short one
with or without it. -/
def FlagArgument.ofText? (text : String) : Option FlagArgument :=
  match text.toList with
  | '-' :: '-' :: [] => none
  | '-' :: '-' :: rest =>
    let name := rest.takeWhile (· != '=')
    let attached := match rest.dropWhile (· != '=') with
      | _ :: value => some (String.ofList value)
      | [] => none
    some ⟨"--" ++ String.ofList name, true, attached⟩
  | '-' :: c :: rest =>
    let attached := match rest with
      | [] => none
      | '=' :: value => some (String.ofList value)
      | value => some (String.ofList value)
    some ⟨String.ofList ['-', c], false, attached⟩
  | _ => none

namespace Usage

def add (usage : Usage) (given : Given) (name text : String) : Except Refusal Given :=
  if (given.value? name).isSome || !usage.admits name text then .error .misuse
  else .ok (given ++ [(name, text)])

def addOperand (usage : Usage) (given : Given) (text : String) : Except Refusal Given :=
  match usage.operand with
  | some name => usage.add given name text
  | none => .error .misuse

def flag? (usage : Usage) (spelling : String) : Option Flag :=
  (usage.flags.find? fun flag => flag.1 == spelling).map Prod.snd

def isValue (argument : String) : Bool :=
  argument != "--" && (FlagArgument.ofText? argument).isNone

/-- Reads arguments one after another. What follows two dashes stands on its own. -/
def read (usage : Usage) (given : Given) : List String → Except Refusal Given
  | [] => .ok given
  | argument :: rest =>
    if argument == "--" then rest.foldlM usage.addOperand given
    else
      match FlagArgument.ofText? argument with
      | none => do read usage (← usage.addOperand given argument) rest
      | some flag =>
        match usage.flag? flag.spelling, flag.attached with
        | none, _ => .error .misuse
        | some (.notice refusal), attached =>
          .error (if flag.long && attached.isSome then .misuse else refusal)
        | some (.switch name), none => do read usage (← usage.add given name "") rest
        | some (.switch _), some _ => .error .misuse
        | some (.setting name), some text => do read usage (← usage.add given name text) rest
        | some (.setting name), none =>
          match rest with
          | [] => .error .misuse
          | text :: rest =>
            if isValue text then do read usage (← usage.add given name text) rest
            else .error .misuse

end Usage

end CaseSynthesis
