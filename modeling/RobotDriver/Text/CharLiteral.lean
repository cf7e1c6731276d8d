import RobotDriver.Bytes
import RobotDriver.Text.Hidden

/-!
# Quoting a character

A message names a character between apostrophes. A backslash introduces the characters that would
break the quotation, and a hidden character is given by its number in base sixteen.
-/

namespace RobotDriver.Text

/-- A number in base sixteen, without leading zeros. -/
def hexNumber (n : Nat) : List Char :=
  Nat.toDigits 16 n

/-- The character as it stands between the apostrophes. -/
def escapeChar (c : Char) : List Char :=
  if c = '\x00' then ['\\', '0']
  else if c = '\t' then ['\\', 't']
  else if c = '\r' then ['\\', 'r']
  else if c = '\n' then ['\\', 'n']
  else if c = '\\' || c = '\'' then ['\\', c]
  else if isHidden c then ['\\', 'u', '\x7b'] ++ hexNumber c.toNat ++ ['\x7d']
  else [c]

/-- The character between apostrophes. -/
def quoteChar (c : Char) : String :=
  String.ofList ('\'' :: escapeChar c ++ ['\''])

end RobotDriver.Text
