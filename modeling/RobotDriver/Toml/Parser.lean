import RobotDriver.Toml.Lexical

/-!
# Reading TOML

`parse` reads a document line by line: keys with their values, headers that open tables, comments
and blank lines. Values nest in arrays and in braces to a bounded depth.
-/

namespace RobotDriver.Toml

mutual

/-- A value, `depth` levels deep. -/
def value (fuel depth : Nat) : Reader Item := fun cs =>
  match fuel, cs with
  | 0, _ => none
  | fuel + 1, '[' :: rest =>
    if depth + 1 < depthLimit then
      (arrayTail fuel (depth + 1) (skipLines rest.length rest)).map fun r => (.array r.1, r.2)
    else none
  | fuel + 1, '{' :: rest =>
    if depth + 1 < depthLimit then
      match skipBlanks rest with
      | '}' :: rest => some (.inlineTable [], rest)
      | rest => (inlineTail fuel (depth + 1) [] rest).map fun r => (.inlineTable r.1, r.2)
    else none
  | _ + 1, '"' :: _ | _ + 1, '\'' :: _ => (string cs).map fun r => (.text r.1, r.2)
  | _ + 1, _ => word cs

/-- The values of an array up to its bracket. -/
def arrayTail (fuel depth : Nat) : Reader (List Item) := fun cs =>
  match fuel, cs with
  | 0, _ => none
  | _ + 1, ']' :: rest => some ([], rest)
  | fuel + 1, cs =>
    match value fuel depth cs with
    | none => none
    | some (item, rest) =>
      match skipLines rest.length rest with
      | ',' :: rest =>
        (arrayTail fuel depth (skipLines rest.length rest)).map fun r => (item :: r.1, r.2)
      | ']' :: rest => some ([item], rest)
      | _ => none

/-- The pairs of a table in braces up to its brace. -/
def inlineTail (fuel depth : Nat) (entries : Entries) : Reader Entries := fun cs =>
  match fuel with
  | 0 => none
  | fuel + 1 =>
    match key cs with
    | none => none
    | some (keys, rest) =>
      match expect? ['='] rest with
      | none => none
      | some rest =>
        match value fuel depth (skipBlanks rest) with
        | none => none
        | some (item, rest) =>
          match entries.addDotted keys item, skipBlanks rest with
          | some entries, ',' :: rest => inlineTail fuel depth entries (skipBlanks rest)
          | some entries, '}' :: rest => some (entries, rest)
          | _, _ => none

end

/-- What a line of a document says. -/
inductive Line where
  | blank
  | tableHeader (keys : List String)
  | elementHeader (keys : List String)
  | pair (keys : List String) (item : Item)

/-- A header behind its opening bracket, up to its closing one. -/
def header (close : List Char) : Reader (List String) := fun cs => do
  let (keys, rest) ← key (skipBlanks cs)
  let rest ← expect? close rest
  pure (keys, rest)

/-- One line, without its end. -/
def line : Reader Line := fun cs =>
  match skipBlanks cs with
  | [] => some (.blank, [])
  | '[' :: '[' :: rest => (header [']', ']'] rest).map fun r => (.elementHeader r.1, r.2)
  | '[' :: rest => (header [']'] rest).map fun r => (.tableHeader r.1, r.2)
  | c :: rest =>
    if c == '#' || c == '\n' || c == '\r' then some (.blank, c :: rest)
    else do
      let (keys, rest) ← key (c :: rest)
      let rest ← expect? ['='] rest
      let (item, rest) ← value (2 * rest.length + 2) 0 (skipBlanks rest)
      pure (.pair keys item, rest)

/-- A document that is being read: the table at hand and everything so far. -/
structure Draft where
  header : List String := []
  entries : Entries := []

/-- Takes a line into a document. -/
def Draft.take (d : Draft) : Line → Option Draft
  | .blank => some d
  | .tableHeader keys => (d.entries.openTable keys).map fun entries => { header := keys, entries }
  | .elementHeader keys => (d.entries.openElement keys).map fun entries => { header := keys, entries }
  | .pair keys item => (d.entries.addUnder d.header keys item).map fun entries => { d with entries }

/-- Reads the lines of a text into a document, at most `fuel` of them. -/
def readLines (fuel : Nat) (d : Draft) (cs : List Char) : Option Draft :=
  match fuel, cs with
  | _, [] => some d
  | 0, _ => none
  | fuel + 1, cs => do
    let (said, rest) ← line cs
    let d ← d.take said
    let rest ← endLine? rest
    readLines fuel d rest

/-- Reads a document. A byte order mark at the front is passed over. -/
def parse (text : String) : Option Entries :=
  let cs := text.toList
  let cs := if cs.head? = some '\ufeff' then cs.drop 1 else cs
  (readLines (cs.length + 1) {} cs).map (·.entries)

end RobotDriver.Toml
