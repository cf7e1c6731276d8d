import RobotDriver.Toml.Document

/-!
# The words of a TOML document

Readers for blanks, comments, keys, strings, numbers and dates. A reader takes what it reads off the
front of a text and returns it with the rest; it refuses a text that does not begin with such a word.
-/

namespace RobotDriver.Toml

/-- Takes a word off the front of a text. -/
abbrev Reader (α : Type) := List Char → Option (α × List Char)

def isDigit (c : Char) : Bool :=
  '0' ≤ c && c ≤ '9'

def isHexDigit (c : Char) : Bool :=
  isDigit c || ('a' ≤ c && c ≤ 'f') || ('A' ≤ c && c ≤ 'F')

def isOctalDigit (c : Char) : Bool :=
  '0' ≤ c && c ≤ '7'

def isBinaryDigit (c : Char) : Bool :=
  c == '0' || c == '1'

/-- The value of a digit of base sixteen or less. -/
def digitValue (c : Char) : Nat :=
  if isDigit c then c.toNat - 48
  else if 'a' ≤ c then c.toNat - 87
  else c.toNat - 55

/-- The number that digits stand for. -/
def numberOf (base : Nat) (digits : List Char) : Nat :=
  digits.foldl (fun n c => n * base + digitValue c) 0

def isBareKeyChar (c : Char) : Bool :=
  isDigit c || ('a' ≤ c && c ≤ 'z') || ('A' ≤ c && c ≤ 'Z') || c == '_' || c == '-'

/-- Characters that a comment may hold, and a string as they are, quotes and backslashes apart. -/
def isTextChar (c : Char) : Bool :=
  c == '\t' || (c.toNat ≥ 0x20 && c.toNat ≠ 0x7f)

/-- The text behind blanks within a line. -/
def skipBlanks (cs : List Char) : List Char :=
  cs.dropWhile fun c => c == ' ' || c == '\t'

/-- The text behind the end of a line. -/
def newline? : List Char → Option (List Char)
  | '\n' :: cs => some cs
  | '\r' :: '\n' :: cs => some cs
  | _ => none

/-- The text behind blanks and ends of lines. -/
def skipGap : List Char → List Char
  | ' ' :: cs | '\t' :: cs | '\n' :: cs => skipGap cs
  | '\r' :: '\n' :: cs => skipGap cs
  | cs => cs

/-- The text behind a comment, if there is one. -/
def skipComment : List Char → List Char
  | '#' :: cs => cs.dropWhile isTextChar
  | cs => cs

/-- The text behind a line that holds nothing more than a comment. -/
def endLine? (cs : List Char) : Option (List Char) :=
  match skipComment (skipBlanks cs) with
  | [] => some []
  | cs => newline? cs

/-- The text behind blanks, comments and ends of lines, within `fuel` lines. -/
def skipLines (fuel : Nat) (cs : List Char) : List Char :=
  let cs := skipComment (skipBlanks cs)
  match fuel, newline? cs with
  | fuel + 1, some rest => skipLines fuel rest
  | _, _ => cs

/-- The text behind a word that is expected. -/
def expect? (word : List Char) (cs : List Char) : Option (List Char) :=
  if word.isPrefixOf cs then some (cs.drop word.length) else none

/-! ### Strings -/

/-- A character given by its number in base sixteen. -/
def numberedChar (count : Nat) : Reader Char := fun cs =>
  let digits := cs.take count
  if digits.length = count && digits.all isHexDigit then
    let n := numberOf 16 digits
    if n.isValidChar then some (Char.ofNat n, cs.drop count) else none
  else none

/-- The character that an escape behind a backslash stands for. -/
def escapedChar : Reader Char
  | 'b' :: cs => some ('\x08', cs)
  | 't' :: cs => some ('\t', cs)
  | 'n' :: cs => some ('\n', cs)
  | 'f' :: cs => some ('\x0c', cs)
  | 'r' :: cs => some ('\r', cs)
  | '"' :: cs => some ('"', cs)
  | '\\' :: cs => some ('\\', cs)
  | 'u' :: cs => numberedChar 4 cs
  | 'U' :: cs => numberedChar 8 cs
  | _ => none

/-- The rest of a string in double quotes. -/
def basicTail (fuel : Nat) : Reader (List Char) := fun cs =>
  match fuel, cs with
  | 0, _ => none
  | _ + 1, '"' :: cs => some ([], cs)
  | fuel + 1, '\\' :: cs => do
    let (c, cs) ← escapedChar cs
    let (text, cs) ← basicTail fuel cs
    pure (c :: text, cs)
  | fuel + 1, c :: cs =>
    if isTextChar c then (basicTail fuel cs).map fun r => (c :: r.1, r.2) else none
  | _, [] => none

/-- The rest of a string in apostrophes. -/
def literalTail : Reader (List Char)
  | [] => none
  | '\'' :: cs => some ([], cs)
  | c :: cs => if isTextChar c then (literalTail cs).map fun r => (c :: r.1, r.2) else none

/-- The end of a string over several lines: three quotes, before which up to two more belong to
the text. -/
def closing? (quote : Char) (cs : List Char) : Option (List Char × List Char) :=
  let run := cs.takeWhile (· == quote)
  if run.length ≥ 3 && run.length ≤ 5 then some (run.drop 3, cs.drop run.length)
  else none

/-- The rest of a string over several lines; `escapes` says whether a backslash is special. -/
def blockTail (quote : Char) (escapes : Bool) (fuel : Nat) : Reader (List Char) := fun cs =>
  match fuel, cs with
  | 0, _ | _, [] => none
  | fuel + 1, c :: rest =>
    match closing? quote cs with
    | some closed => some closed
    | none =>
      if c == quote then
        if rest.takeWhile (· == quote) |>.length |> (· ≥ 2) then none
        else (blockTail quote escapes fuel rest).map fun r => (c :: r.1, r.2)
      else if escapes && c == '\\' then
        match newline? (skipBlanks rest) with
        | some after => blockTail quote escapes fuel (skipGap after)
        | none => do
          let (c, rest) ← escapedChar rest
          let (text, rest) ← blockTail quote escapes fuel rest
          pure (c :: text, rest)
      else
        match newline? cs with
        | some after => (blockTail quote escapes fuel after).map fun r => ('\n' :: r.1, r.2)
        | none =>
          if isTextChar c then (blockTail quote escapes fuel rest).map fun r => (c :: r.1, r.2)
          else none

/-- A string on one line. -/
def lineString : Reader String := fun cs =>
  match cs with
  | '"' :: rest => (basicTail (rest.length + 1) rest).map fun r => (String.ofList r.1, r.2)
  | '\'' :: rest => (literalTail rest).map fun r => (String.ofList r.1, r.2)
  | _ => none

/-- A string over several lines. A line end directly behind the opening quotes is dropped. -/
def blockString (quote : Char) : Reader String := fun cs => do
  let rest ← expect? [quote, quote, quote] cs
  let rest := (newline? rest).getD rest
  let (text, rest) ← blockTail quote (quote == '"') (rest.length + 1) rest
  pure (String.ofList text, rest)

/-- Any string. -/
def string : Reader String := fun cs =>
  match expect? ['"', '"', '"'] cs, expect? ['\'', '\'', '\''] cs with
  | some _, _ => blockString '"' cs
  | _, some _ => blockString '\'' cs
  | none, none => lineString cs

/-! ### Keys -/

/-- A key without dots. -/
def simpleKey : Reader String := fun cs =>
  match cs with
  | '"' :: _ | '\'' :: _ => lineString cs
  | _ =>
    let word := cs.takeWhile isBareKeyChar
    if word.isEmpty then none else some (String.ofList word, cs.drop word.length)

/-- The parts of a key behind its first. -/
def keyTail (fuel : Nat) : List Char → Option (List String × List Char) := fun cs =>
  match fuel, skipBlanks cs with
  | fuel + 1, '.' :: rest => do
    let (part, rest) ← simpleKey (skipBlanks rest)
    let (parts, rest) ← keyTail fuel rest
    pure (part :: parts, rest)
  | _, rest => some ([], rest)

/-- A document goes less deep than this: by the parts of a key, by the values within values. -/
def depthLimit : Nat := 80

/-- A key of one or more parts, with the blanks behind it. -/
def key : Reader (List String) := fun cs => do
  let (part, rest) ← simpleKey cs
  let (parts, rest) ← keyTail rest.length rest
  if parts.length + 1 < depthLimit then pure (part :: parts, rest) else none

/-! ### Numbers and dates -/

/-- Digits with single underscores between them; the underscores are left out. -/
def digits (p : Char → Bool) : Reader (List Char) := fun cs =>
  let word := cs.takeWhile fun c => p c || c == '_'
  let doubled := (word.zip (word.drop 1)).any fun pair => pair.1 == '_' && pair.2 == '_'
  if word.head? = some '_' || word.getLast? = some '_' || word.isEmpty || doubled then none
  else some (word.filter (· != '_'), cs.drop word.length)

/-- An integer in a base other than ten. -/
def radixInteger : Reader Int
  | '0' :: 'x' :: cs => (digits isHexDigit cs).map fun r => (Int.ofNat (numberOf 16 r.1), r.2)
  | '0' :: 'o' :: cs => (digits isOctalDigit cs).map fun r => (Int.ofNat (numberOf 8 r.1), r.2)
  | '0' :: 'b' :: cs => (digits isBinaryDigit cs).map fun r => (Int.ofNat (numberOf 2 r.1), r.2)
  | _ => none

/-- A sign, if there is one: whether it is a minus. -/
def sign : List Char → Bool × List Char
  | '-' :: cs => (true, cs)
  | '+' :: cs => (false, cs)
  | cs => (false, cs)

/-- The digits of a whole number, without a leading zero. -/
def wholeDigits : Reader (List Char) := fun cs =>
  match cs with
  | '0' :: rest => some (['0'], rest)
  | _ => digits isDigit cs

/-- Integers fit 64 bits. -/
def fitsWord (n : Int) : Bool :=
  -0x8000000000000000 ≤ n && n < 0x8000000000000000

/-- The digits behind a decimal point. -/
def fraction : Reader (List Char)
  | '.' :: cs => digits isDigit cs
  | _ => none

/-- A power of ten. -/
def exponent : Reader Int := fun cs =>
  match cs with
  | 'e' :: rest | 'E' :: rest =>
    let (minus, rest) := sign rest
    (digits isDigit rest).map fun r =>
      (if minus then -Int.ofNat (numberOf 10 r.1) else Int.ofNat (numberOf 10 r.1), r.2)
  | _ => none

/-- The least number that rounds to infinity in 64 bits. -/
def realBound : Nat :=
  Nat.pow 2 1024 - Nat.pow 2 970

/-- The decimal number `mantissa · 10 ^ power` rounds to infinity in 64 bits. -/
def overflows (mantissa : Nat) (power : Int) : Bool :=
  if mantissa = 0 then false
  else if power > 400 then true
  else if power ≥ 0 then decide (mantissa * Nat.pow 10 power.toNat ≥ realBound)
  else decide (mantissa ≥ realBound * Nat.pow 10 (min power.natAbs (Nat.toDigits 10 mantissa).length))

/-- A decimal number: an integer, or a real if it has a fraction or an exponent. A real must not
round to infinity; one that rounds to its negative is a real like others. -/
def decimal : Reader Item := fun cs => do
  let (minus, rest) := sign cs
  match expect? ['i', 'n', 'f'] rest, expect? ['n', 'a', 'n'] rest with
  | some rest, _ | _, some rest => pure (.real, rest)
  | none, none =>
    let (whole, rest) ← wholeDigits rest
    let (decimals, behind) := (fraction rest).getD ([], rest)
    let (power, last) := (exponent behind).getD (0, behind)
    if last.length = rest.length then
      let n := Int.ofNat (numberOf 10 whole)
      let n := if minus then -n else n
      if fitsWord n then pure (.integer n, rest) else none
    else
      let mantissa := numberOf 10 (whole ++ decimals)
      if !minus && overflows mantissa (power - Int.ofNat decimals.length) then none
      else pure (.real, last)

/-- A number of a fixed count of digits. -/
def fixedNumber (count : Nat) : Reader Nat := fun cs =>
  let word := cs.take count
  if word.length = count && word.all isDigit then some (numberOf 10 word, cs.drop count) else none

/-- The days of a month. -/
def monthDays (year month : Nat) : Nat :=
  if month = 2 then
    if year % 4 = 0 && (year % 100 ≠ 0 || year % 400 = 0) then 29 else 28
  else if month = 4 || month = 6 || month = 9 || month = 11 then 30
  else 31

/-- The text behind a date. -/
def date? (cs : List Char) : Option (List Char) := do
  let (year, cs) ← fixedNumber 4 cs
  let cs ← expect? ['-'] cs
  let (month, cs) ← fixedNumber 2 cs
  let cs ← expect? ['-'] cs
  let (day, cs) ← fixedNumber 2 cs
  if 1 ≤ month && month ≤ 12 && 1 ≤ day && day ≤ monthDays year month then some cs else none

/-- The text behind a time of day. -/
def time? (cs : List Char) : Option (List Char) := do
  let (hour, cs) ← fixedNumber 2 cs
  let cs ← expect? [':'] cs
  let (minute, cs) ← fixedNumber 2 cs
  let cs ← expect? [':'] cs
  let (second, cs) ← fixedNumber 2 cs
  if hour ≤ 23 && minute ≤ 59 && second ≤ 60 then
    match cs with
    | '.' :: rest =>
      let decimals := rest.takeWhile isDigit
      if decimals.isEmpty then some cs else some (rest.drop decimals.length)
    | _ => some cs
  else none

/-- The text behind the distance of a time from universal time. -/
def offset? : List Char → Option (List Char)
  | 'Z' :: cs | 'z' :: cs => some cs
  | '+' :: cs | '-' :: cs => do
    let (hour, cs) ← fixedNumber 2 cs
    let cs ← expect? [':'] cs
    let (minute, cs) ← fixedNumber 2 cs
    if hour ≤ 23 && minute ≤ 59 then some cs else none
  | _ => none

/-- A date, a time or both. -/
def moment : Reader Item := fun cs =>
  match date? cs with
  | some rest =>
    match rest with
    | c :: timed =>
      if c == 'T' || c == 't' || c == ' ' then
        match time? timed with
        | some rest => some (.moment, (offset? rest).getD rest)
        | none => some (.moment, rest)
      else some (.moment, rest)
    | [] => some (.moment, [])
  | none => (time? cs).map fun rest => (.moment, rest)

/-- A value that is a single word. -/
def word : Reader Item := fun cs =>
  match expect? ['t', 'r', 'u', 'e'] cs, expect? ['f', 'a', 'l', 's', 'e'] cs with
  | some rest, _ => some (.boolean true, rest)
  | _, some rest => some (.boolean false, rest)
  | none, none =>
    match moment cs, radixInteger cs with
    | some r, _ => some r
    | none, some (n, rest) => if fitsWord n then some (.integer n, rest) else none
    | none, none => decimal cs

end RobotDriver.Toml
