import CaseSynthesis.Command.Outcome
import CaseSynthesis.Json.Printer
import CaseSynthesis.Triage.Delivery

/-! How often each kind of event and each role occurs in a feed. -/

namespace CaseSynthesis.Triage

/-- The cases that occur, in the order they are declared in, each with how often it does. -/
def tally (enumeration : Enumeration) (occurring : List String) : List (String × Nat) :=
  (enumeration.cases.map fun case => (case, occurring.count case)).filter fun (_, count) =>
    0 < count

def padded (width : Nat) (text : String) : String :=
  text ++ String.ofList (List.replicate (width - text.length) ' ')

def row (name : String) (count : Nat) : String :=
  "  " ++ padded 14 name ++ " " ++ toString count ++ "\n"

structure Summary where
  events : List (String × Nat)
  roles : List (String × Nat)
  deriving DecidableEq, Repr

namespace Summary

def ofDeliveries (events roles : Enumeration) (deliveries : List Delivery) : Summary where
  events := tally events (deliveries.map Delivery.event)
  roles := tally roles (deliveries.filterMap fun delivery => roles.init? delivery.role)

def text (summary : Summary) (events : Enumeration) : String :=
  let eventRows := summary.events.map fun (case, count) =>
    row ((events.rawValue? case).getD case) count
  let roleRows := summary.roles.map fun (case, count) => row case count
  "Events:\n" ++ String.join eventRows ++ "\nRoles:\n" ++ String.join roleRows ++
    "\nRe-encoded: " ++
    Json.compact (.arr (summary.events.filterMap fun (case, _) => events.encode? case)) ++ "\n"

end Summary

def bundledFeed : String :=
  "\x7b\"id\": 1, \"event\": \"Opened\", \"sender\": \"octo\", \"role\": \"Maintainer\"\x7d\n" ++
  "\x7b\"id\": 2, \"event\": \"Pr\", \"sender\": \"mona\", \"role\": \"Visitor\"\x7d\n" ++
  "\x7b\"id\": 3, \"event\": \"pull_request\", \"sender\": \"hubot\", \"role\": \"Bot\"\x7d\n" ++
  "\x7b\"id\": 4, \"event\": \"Closed\", \"sender\": \"octo\", \"role\": \"Maintainer\"\x7d\n" ++
  "\x7b\"id\": 5, \"event\": \"Pr\", \"sender\": \"lisa\", \"role\": \"Contributor\"\x7d\n"

def run (feed : String) : Outcome :=
  match events, roles with
  | .ok events, .ok roles =>
    match deliveries events feed with
    | .ok deliveries =>
      { exitCode := 0, output := (Summary.ofDeliveries events roles deliveries).text events }
    | .error line => { exitCode := 1, errorOutput := "Error: line " ++ toString line ++ "\n" }
  | .error error, _ | _, .error error =>
    { exitCode := 1, errorOutput := "Error: " ++ error.message ++ "\n" }

end CaseSynthesis.Triage
