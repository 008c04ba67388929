import CaseSynthesis.Json.Decode
import CaseSynthesis.Json.Record
import CaseSynthesis.Rule.Enumeration
import CaseSynthesis.Text.Blank

/-! A feed of deliveries, one a line. The kind of event and the role of the sender are given
loosely; what is not known of either goes to a fallback case. -/

namespace CaseSynthesis.Triage

def case (name : String) (rawValue : Option String) : CaseElement :=
  ⟨name, rawValue.map .str, false⟩

def eventDecl : Decl where
  kind := .enum
  name := "EventKind"
  inherited := [⟨"String"⟩]
  members := [.cases [case "Opened" none, case "Pr" (some "pull_request"), case "Push" none]]

def roleDecl : Decl where
  kind := .enum
  name := "Role"
  inherited := []
  members := [.cases [case "Maintainer" none, case "Contributor" none, case "Visitor" none]]

def events : Except SynthesisError Enumeration := Enumeration.ofDecl {} .codableEnum eventDecl

def roles : Except SynthesisError Enumeration := Enumeration.ofDecl {} .nullableEnum roleDecl

structure Delivery where
  id : UInt64
  event : String
  sender : String
  role : String
  deriving DecidableEq, Repr

def id? (json : Json) : Option UInt64 := do
  let id ← json.nat?
  if id < UInt64.size then some (UInt64.ofNat id) else none

def Delivery.ofText? (events : Enumeration) (text : String) : Option Delivery := do
  let fields ← Json.parseRecord? ["id", "event", "sender", "role"] text
  return {
    id := ← Json.required? id? "id" fields
    event := ← Json.required? events.decode? "event" fields
    sender := ← Json.required? Json.str? "sender" fields
    role := ← Json.required? Json.str? "role" fields }

def withoutReturn (line : List Char) : List Char :=
  if line.getLast? == some '\r' then line.dropLast else line

def numberedLines (text : String) : List (Nat × String) :=
  let lines := (text.splitOn "\n").map fun line => String.ofList (withoutReturn line.toList)
  (lines.zipIdx.filter fun (line, _) => !(Text.trim line.toList).isEmpty).map fun (line, index) =>
    (index + 1, line)

def deliveries (events : Enumeration) (feed : String) : Except Nat (List Delivery) :=
  (numberedLines feed).mapM fun (number, line) =>
    match Delivery.ofText? events line with
    | some delivery => .ok delivery
    | none => .error number

end CaseSynthesis.Triage
