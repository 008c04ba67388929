/-! Configuration documents: values, and tables that are filled line by line. -/

namespace CaseSynthesis

/-- How a table came about, which decides how it may be added to later. -/
inductive TableOrigin
  | header
  | implied
  | dotted
  | inline
  deriving DecidableEq, Repr

inductive Toml
  | string (text : String)
  | integer (value : Int)
  | float (spelling : String)
  | boolean (value : Bool)
  | datetime (spelling : String)
  | array (elements : List Toml)
  | table (origin : TableOrigin) (entries : List (String × Toml))
  | tables (elements : List (List (String × Toml)))

namespace Toml

abbrev Entries := List (String × Toml)

def find? (key : String) (entries : Entries) : Option Toml :=
  (entries.find? fun entry => entry.1 == key).map Prod.snd

def assign (key : String) (value : Toml) : Entries → Entries
  | [] => [(key, value)]
  | (name, old) :: rest =>
    if name == key then (name, value) :: rest else (name, old) :: assign key value rest

/-- Changes the table at the end of a path. Tables missing on the way are made; those made by a
dotted key are marked as such, and such a key cannot lead into a table that has a header. -/
def updateAt (byDottedKey : Bool) (change : TableOrigin → Entries → Option Entries) :
    List String → TableOrigin → Entries → Option Entries
  | [], origin, entries => change origin entries
  | key :: rest, _, entries =>
    match find? key entries with
    | none => do
      let origin := if byDottedKey then .dotted else .implied
      let inner ← updateAt byDottedKey change rest origin []
      return assign key (.table origin inner) entries
    | some (.table origin inner) =>
      if origin = .inline || (byDottedKey && origin = .header) then none
      else do
        let inner ← updateAt byDottedKey change rest origin inner
        return assign key (.table origin inner) entries
    | some (.tables elements) =>
      match elements.reverse with
      | [] => none
      | last :: before => do
        let last ← updateAt byDottedKey change rest .header last
        return assign key (.tables (last :: before).reverse) entries
    | some _ => none

/-- Adds a value under a key whose last part is given on its own. No value is given twice, and a
dotted key adds only to a table that dotted keys opened. -/
def insertKey (path : List String) (key : String) (value : Toml) (origin : TableOrigin)
    (entries : Entries) : Option Entries :=
  updateAt true (fun origin entries =>
    if (origin = .dotted) = path.isEmpty || (find? key entries).isSome then none
    else some (assign key value entries)) path origin entries

def openTable (path : List String) (key : String) : Entries → Option Entries :=
  updateAt false (fun _ entries =>
    match find? key entries with
    | none => some (assign key (.table .header []) entries)
    | some (.table .implied inner) => some (assign key (.table .header inner) entries)
    | some _ => none) path .header

def openElement (path : List String) (key : String) : Entries → Option Entries :=
  updateAt false (fun _ entries =>
    match find? key entries with
    | none => some (assign key (.tables [[]]) entries)
    | some (.tables elements) => some (assign key (.tables (elements ++ [[]])) entries)
    | some _ => none) path .header

end Toml

end CaseSynthesis
