/-!
# TOML documents

A document is a table of keys and items. Tables come from headers, from dotted keys, or from the
path of a deeper header; which of them it was decides whether later lines may add to the table. The
operations here insert one line at a time and refuse what the format forbids: a key given twice, a
table defined twice, or a path through something that is not a table.
-/

namespace RobotDriver.Toml

/-- How a table came to be. -/
inductive Origin where
  /-- A header of its own. -/
  | header
  /-- The path of a deeper header. -/
  | path
  /-- A dotted key. -/
  | dotted
  deriving DecidableEq

/-- A value or a table of a document. -/
inductive Item where
  | text (value : String)
  | integer (value : Int)
  | boolean (value : Bool)
  /-- A number with a fraction or an exponent, or an infinity, or not a number. -/
  | real
  /-- A date, a time or both. -/
  | moment
  | array (items : List Item)
  /-- A table in braces, complete as it stands. -/
  | inlineTable (entries : List (String × Item))
  | table (origin : Origin) (entries : List (String × Item))
  /-- Tables under a doubly bracketed header, newest last. -/
  | tables (elements : List (List (String × Item)))

/-- Keys with their items, in the order of their first mention. -/
abbrev Entries := List (String × Item)

namespace Entries

/-- The item of a key. -/
def get? (entries : Entries) (key : String) : Option Item :=
  (entries.find? fun e => e.1 == key).map (·.2)

/-- The entries with an item under a key, in place of the present one. -/
def put (entries : Entries) (key : String) (item : Item) : Entries :=
  if entries.any fun e => e.1 == key then
    entries.map fun e => if e.1 == key then (key, item) else e
  else entries ++ [(key, item)]

/-- Changes the last of a list of tables. -/
def changeLast (f : Entries → Option Entries) : List Entries → Option (List Entries)
  | [] => none
  | [last] => (f last).map ([·])
  | t :: ts => (changeLast f ts).map (t :: ·)

/-- Goes down a path and changes the table at its end, making the tables that are missing. `origin`
is what the path stands in: a dotted key may only pass through tables without a header. The change
is told how the table at the end came to be. -/
def change (origin : Origin) (f : Origin → Entries → Option Entries) (here : Origin) :
    List String → Entries → Option Entries
  | [], entries => f here entries
  | key :: keys, entries =>
    match entries.get? key with
    | none => (change origin f origin keys []).map fun inner => entries.put key (.table origin inner)
    | some (.table found inner) =>
      if origin = .dotted ∧ found = .header then none
      else (change origin f found keys inner).map fun inner => entries.put key (.table found inner)
    | some (.tables elements) =>
      (changeLast (change origin f .header keys) elements).map fun elements =>
        entries.put key (.tables elements)
    | some _ => none

/-- Adds a new key to a table. -/
def add (key : String) (item : Item) (entries : Entries) : Option Entries :=
  match entries.get? key with
  | some _ => none
  | none => some (entries.put key item)

/-- Adds a possibly dotted key to the table at hand. The table it goes into must have come from a
dotted key exactly if the key is dotted. -/
def addDotted (keys : List String) (item : Item) (entries : Entries) : Option Entries :=
  match keys.getLast? with
  | none => none
  | some key =>
    change .dotted
      (fun found inner => if (found = .dotted) ↔ keys.length > 1 then add key item inner else none)
      .header keys.dropLast entries

/-- Opens a table with a header. A table that only a deeper header has mentioned may still get one. -/
def openTable (keys : List String) (entries : Entries) : Option Entries :=
  match keys.getLast? with
  | none => none
  | some key =>
    change .path
      (fun _ inner =>
        match inner.get? key with
        | none => some (inner.put key (.table .header []))
        | some (.table .path present) => some (inner.put key (.table .header present))
        | some _ => none)
      .header keys.dropLast entries

/-- Opens a further table under a doubly bracketed header. -/
def openElement (keys : List String) (entries : Entries) : Option Entries :=
  match keys.getLast? with
  | none => none
  | some key =>
    change .path
      (fun _ inner =>
        match inner.get? key with
        | none => some (inner.put key (.tables [[]]))
        | some (.tables elements) => some (inner.put key (.tables (elements ++ [[]])))
        | some _ => none)
      .header keys.dropLast entries

/-- Adds a key to the table under the header with the given path. -/
def addUnder (header keys : List String) (item : Item) (entries : Entries) : Option Entries :=
  change .path (fun _ inner => addDotted keys item inner) .header header entries

end Entries

end RobotDriver.Toml
