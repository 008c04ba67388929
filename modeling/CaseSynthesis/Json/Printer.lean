import CaseSynthesis.Json.Basic
import CaseSynthesis.Text.Hex

/-! Writing JSON text, on one line or spread over lines. -/

namespace CaseSynthesis.Json
open Text

def escapeChar (c : Char) : List Char :=
  if c == '"' then ['\\', '"']
  else if c == '\\' then ['\\', '\\']
  else if c == '\n' then ['\\', 'n']
  else if c == '\r' then ['\\', 'r']
  else if c == '\t' then ['\\', 't']
  else if c == '\x08' then ['\\', 'b']
  else if c == '\x0c' then ['\\', 'f']
  else if c.toNat < 0x10 then '\\' :: 'u' :: '0' :: '0' :: '0' :: hexText c.toNat
  else if c.toNat < 0x20 then '\\' :: 'u' :: '0' :: '0' :: hexText c.toNat
  else [c]

def stringText (text : String) : String :=
  String.ofList ('"' :: text.toList.flatMap escapeChar ++ ['"'])

mutual

def compact : Json → String
  | null => "null"
  | bool true => "true"
  | bool false => "false"
  | number text => text
  | str text => stringText text
  | arr elements => "[" ++ ",".intercalate (compactAll elements) ++ "]"
  | obj fields => "\x7b" ++ ",".intercalate (compactFields fields) ++ "\x7d"

def compactAll : List Json → List String
  | [] => []
  | value :: rest => compact value :: compactAll rest

def compactFields : List (String × Json) → List String
  | [] => []
  | (name, value) :: rest => (stringText name ++ ":" ++ compact value) :: compactFields rest

end

def indentation (level : Nat) : String := String.ofList (List.replicate (2 * level) ' ')

def bracketed (opening closing : String) (level : Nat) (lines : List String) : String :=
  match lines with
  | [] => opening ++ closing
  | lines =>
    let separator := ",\n" ++ indentation (level + 1)
    opening ++ "\n" ++ indentation (level + 1) ++ separator.intercalate lines ++ "\n" ++
      indentation level ++ closing

mutual

def pretty (level : Nat) : Json → String
  | null => "null"
  | bool true => "true"
  | bool false => "false"
  | number text => text
  | str text => stringText text
  | arr elements => bracketed "[" "]" level (prettyAll (level + 1) elements)
  | obj fields => bracketed "\x7b" "\x7d" level (prettyFields (level + 1) fields)

def prettyAll (level : Nat) : List Json → List String
  | [] => []
  | value :: rest => pretty level value :: prettyAll level rest

def prettyFields (level : Nat) : List (String × Json) → List String
  | [] => []
  | (name, value) :: rest =>
    (stringText name ++ ": " ++ pretty level value) :: prettyFields level rest

end

end CaseSynthesis.Json
