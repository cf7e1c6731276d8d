import RobotDriver.Text.Blank
import RobotDriver.Text.CharLiteral

/-!
# Robot addresses

An address is written as twelve digits of base sixteen, with colons and hyphens anywhere between
them and blanks around them, and begins with the digits of the maker. `Address.parse` brings it to
its normal form: the digits alone, in upper case.
-/

namespace RobotDriver

/-- Why a text is no address of a robot. -/
inductive AddressError where
  | length (digits : Nat)
  | character (found : Char)
  /-- The digits, in normal form, are not those of the maker's robots. -/
  | vendor (digits : String)
  deriving DecidableEq

def AddressError.message : AddressError → String
  | length digits => "address must have 12 hex digits, found " ++ toString digits
  | character found => "invalid character " ++ Text.quoteChar found ++ " in address"
  | vendor digits => "address " ++ digits ++ " does not start with 00066"

/-- An address in normal form. -/
structure Address where
  digits : String
  deriving DecidableEq

namespace Address

/-- The digits that every address begins with. -/
def vendorPrefix : List Char :=
  ['0', '0', '0', '6', '6']

def digitCount : Nat := 12

def isSeparator (c : Char) : Bool :=
  c == ':' || c == '-'

def isHexDigit (c : Char) : Bool :=
  c.isDigit || ('a' ≤ c && c ≤ 'f') || ('A' ≤ c && c ≤ 'F')

/-- The first character that is neither a digit nor a separator. -/
def firstStray? (cs : List Char) : Option Char :=
  cs.find? fun c => !(isSeparator c || isHexDigit c)

/-- The digits in upper case, without what separates them. -/
def normalDigits (cs : List Char) : List Char :=
  (cs.filter isHexDigit).map Char.toUpper

/-- Reads an address. A stray character is reported before a wrong number of digits, and that
before digits of another maker. -/
def parse (text : String) : Except AddressError Address :=
  let cs := Text.trim text.toList
  match firstStray? cs with
  | some c => .error (.character c)
  | none =>
    let digits := normalDigits cs
    if digits.length ≠ digitCount then .error (.length digits.length)
    else if vendorPrefix.isPrefixOf digits then .ok ⟨String.ofList digits⟩
    else .error (.vendor (String.ofList digits))

end Address

end RobotDriver
