import RobotDriver.Settings
import RobotDriver.Settings.Wrapped
import RobotDriver.Text.Blank
import RobotDriver.Toml.Parser

/-!
# Where settings come from

Settings are layered: the standard values, a file in TOML, variables of the environment. The value
of a setting is taken from the last layer that gives one, and only that value has to be of the right
kind; keys that name no setting are ignored.
-/

namespace RobotDriver

/-- The settings by name. -/
inductive Setting where
  | pingInterval
  | maxBatch
  | raiseOnConnectFailure
  | responseTimeout
  | disconnectGrace
  | macroStreaming
  deriving DecidableEq

def Setting.key : Setting → String
  | pingInterval => "ping_interval_ms"
  | maxBatch => "max_batch_bytes"
  | raiseOnConnectFailure => "raise_on_connect_failure"
  | responseTimeout => "response_timeout_ms"
  | disconnectGrace => "disconnect_grace_ms"
  | macroStreaming => "macro_streaming"

/-- A value as a source gives it. -/
inductive Setting.Value where
  | number (n : Nat)
  | flag (on : Bool)
  /-- A value that no setting accepts. -/
  | unusable
  deriving DecidableEq

namespace Setting.Value

/-- Numbers are whole and below `2 ^ 64`. -/
def ofInt (n : Int) : Value :=
  if 0 ≤ n && n < 0x10000000000000000 then number n.toNat else unusable

/-- The value of a key in a file. -/
def ofItem (item : Toml.Item) : Value :=
  match item.content with
  | .integer n => ofInt n
  | .boolean on => flag on
  | _ => unusable

/-- A text that is a sign, or none, and digits. -/
def integerText? (cs : List Char) : Option Int :=
  let (minus, ds) := Toml.sign cs
  if ds.isEmpty || !ds.all Toml.isDigit then none
  else
    let n := Int.ofNat (Toml.numberOf 10 ds)
    some (if minus then -n else n)

/-- The blanks of the ASCII range that surround a variable's value. -/
def isAsciiBlank (c : Char) : Bool :=
  c == ' ' || c == '\t' || c == '\n' || c == '\r' || c == '\x0c'

/-- The value of a variable: blanks around it do not count. -/
def ofText (text : String) : Value :=
  let cs := Text.trimBy isAsciiBlank text.toList
  if cs = ['t', 'r', 'u', 'e'] then flag true
  else if cs = ['f', 'a', 'l', 's', 'e'] then flag false
  else
    match integerText? (Text.trim cs) with
    | some n => ofInt n
    | none => unusable

end Setting.Value

/-- Variables of the environment, by name. -/
abbrev Environment := List (String × String)

namespace Environment

/-- What the names of settings begin with. -/
def namePrefix : List Char :=
  ['s', 'p', 'h', 'e', 'r', 'o', '_']

/-- The parts of a text between its dots. -/
def dottedParts : List Char → List (List Char)
  | [] => [[]]
  | '.' :: cs => [] :: dottedParts cs
  | c :: cs =>
    match dottedParts cs with
    | [] => [[c]]
    | part :: parts => (c :: part) :: parts

theorem dottedParts_ne_nil (cs : List Char) : dottedParts cs ≠ [] := by
  fun_cases dottedParts cs <;> simp_all

/-- The parts with dots between them are the text again. -/
theorem intercalate_dottedParts (cs : List Char) :
    List.intercalate ['.'] (dottedParts cs) = cs := by
  induction cs with
  | nil => rfl
  | cons c cs ih =>
    obtain ⟨part, parts, h⟩ := List.exists_cons_of_ne_nil (dottedParts_ne_nil cs)
    rw [h] at ih
    by_cases hc : c = '.'
    · subst hc
      simp only [dottedParts, h, List.intercalate, List.intersperse_cons_cons, List.flatten_cons] at ih ⊢
      simp [ih]
    · cases parts <;> simp_all [dottedParts, List.intercalate]

/-- What a variable's name stands for, whatever the case of its letters: a key, and further keys of
the tables within it. Blanks around the name do not count, and a name with an empty part stands for
nothing. -/
def keys? (name : String) : Option (List String) :=
  let cs := (Text.trim name.toList).map Char.toLower
  if namePrefix.isPrefixOf cs then
    let parts := dottedParts (Text.trim (cs.drop namePrefix.length))
    if parts.any List.isEmpty then none else some (parts.map String.ofList)
  else none

/-- The value that a variable gives a setting: its text, or a table, which no setting accepts, if the
name goes on behind the setting's. -/
def valueOf? (s : Setting) (v : String × String) : Option Setting.Value :=
  match keys? v.1 with
  | some (key :: inner) =>
    if key = s.key then some (if inner.isEmpty then Setting.Value.ofText v.2 else .unusable)
    else none
  | _ => none

/-- The value that the environment gives a setting: the one of the last variable that gives one. -/
def get? (env : Environment) (s : Setting) : Option Setting.Value :=
  env.reverse.findSome? (valueOf? s)

end Environment

namespace Settings

/-- The value that a setting gets from the layers above the standard values. -/
def layered (file : Toml.Entries) (env : Environment) (s : Setting) : Option Setting.Value :=
  (env.get? s).or ((file.get? s.key).map Setting.Value.ofItem)

/-- A number, or the standard one where no layer gives a value. -/
def numberOr (standard : Nat) : Option Setting.Value → Except SettingsError Nat
  | none => .ok standard
  | some (.number n) => .ok n
  | some _ => .error .unreadable

/-- A flag, or the standard one where no layer gives a value. -/
def flagOr (standard : Bool) : Option Setting.Value → Except SettingsError Bool
  | none => .ok standard
  | some (.flag on) => .ok on
  | some _ => .error .unreadable

/-- A number that may be absent. -/
def number? : Option Setting.Value → Except SettingsError (Option Nat)
  | none => .ok none
  | some (.number n) => .ok (some n)
  | some _ => .error .unreadable

/-- Settings from the layers, each value of the right kind. -/
def ofLayers (file : Toml.Entries) (env : Environment) : Except SettingsError Settings := do
  let get := layered file env
  let pingInterval ← numberOr 60000 (get .pingInterval)
  let maxBatch ← numberOr 256 (get .maxBatch)
  let raiseOnConnectFailure ← flagOr false (get .raiseOnConnectFailure)
  let responseTimeout ← number? (get .responseTimeout)
  let disconnectGrace ← numberOr 5000 (get .disconnectGrace)
  let macroStreaming ← flagOr true (get .macroStreaming)
  pure { pingInterval, maxBatch, raiseOnConnectFailure, responseTimeout, disconnectGrace, macroStreaming }

/-- The entries of a file. Below its top level no table may say where its value comes from. -/
def readFile (text : String) : Except SettingsError Toml.Entries :=
  match Toml.parse text with
  | some entries => if entries.all fun e => e.2.isUnmarked then .ok entries else .error .unreadable
  | none => .error .unreadable

/-- Settings from a file, if there is one, and the environment. -/
def load (file : Option String) (env : Environment) : Except SettingsError Settings := do
  let entries ←
    match file with
    | none => pure []
    | some text => readFile text
  let settings ← ofLayers entries env
  settings.validate

end Settings

end RobotDriver
