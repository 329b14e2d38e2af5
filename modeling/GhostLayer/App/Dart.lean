import Mathlib.Algebra.Group.Nat.Defs
import Mathlib.Data.List.DropRight

/-! # Strings, numbers and JSON values of Dart

What the app takes from its language. A string is a list of UTF-16 code units. An
integer has 64 bits, and a double is taken by its exact value. The tables of
Unicode for lower case differ between versions, so the mapping is given; on
ASCII it is the usual one.
-/

namespace App

/-! ## Strings -/

/-- Code units. A surrogate may stand alone. -/
abbrev Text := List UInt16

/-- A literal of the source. They are all ASCII. -/
def ascii (literal : String) : Text := literal.toList.map fun character => character.toNat.toUInt16

def isWhiteSpace (unit : UInt16) : Bool :=
  (0x9 ≤ unit ∧ unit ≤ 0xd) ∨ (0x2000 ≤ unit ∧ unit ≤ 0x200a) ∨
    unit ∈ [0x20, 0x85, 0xa0, 0x1680, 0x2028, 0x2029, 0x202f, 0x205f, 0x3000, 0xfeff]

def trim (text : Text) : Text := (text.dropWhile isWhiteSpace).rdropWhile isWhiteSpace

def startsWith (text part : Text) : Bool := part.isPrefixOf text

def endsWith (text part : Text) : Bool := part.isSuffixOf text

def contains (text part : Text) : Bool := text.tails.any (part.isPrefixOf ·)

def lowerUnit (unit : UInt16) : UInt16 :=
  if 0x41 ≤ unit ∧ unit ≤ 0x5a then unit + 0x20 else unit

def isAscii (unit : UInt16) : Bool := unit < 0x80

/-- The mapping to lower case. -/
structure CaseMapping where
  toLowerCase : Text → Text
  onAscii : ∀ text, text.all isAscii = true → toLowerCase text = text.map lowerUnit

/-- The mapping that changes nothing outside ASCII. -/
def CaseMapping.asciiOnly : CaseMapping := ⟨List.map lowerUnit, fun _ _ => rfl⟩

/-! ## Numbers -/

/-- A double by its exact value. No JSON text gives one that is not a number. -/
inductive Double where
  | finite (value : Rat)
  | infinite
  deriving DecidableEq

inductive Num where
  | int (value : Int64)
  | double (value : Double)
  deriving DecidableEq

/-- Towards zero. -/
def truncate (value : Rat) : Int := if 0 ≤ value then value.floor else value.ceil

/-- A double out of range becomes the nearest integer. An infinite one throws. -/
def Num.toInt : Num → Option Int64
  | .int value => some value
  | .double (.finite value) => some (Int64.ofIntClamp (truncate value))
  | .double .infinite => none

def digitValue (unit : UInt16) : Option Nat :=
  if 0x30 ≤ unit ∧ unit ≤ 0x39 then some (unit.toNat - 0x30)
  else if 0x41 ≤ unit ∧ unit ≤ 0x46 then some (unit.toNat - 0x37)
  else if 0x61 ≤ unit ∧ unit ≤ 0x66 then some (unit.toNat - 0x57)
  else none

def readDigits (radix value : Nat) : Text → Option Nat
  | [] => some value
  | unit :: rest => match digitValue unit with
    | some digit => if digit < radix then readDigits radix (value * radix + digit) rest else none
    | none => none

/-- A number that was written with a sign, below a bound if it is positive. -/
def signed (negative : Bool) (bound radix : Nat) (digits : Text) : Option Int64 :=
  if digits = [] then none
  else match readDigits radix 0 digits with
    | some magnitude =>
        if negative then if magnitude ≤ 2 ^ 63 then some (.ofInt (-magnitude)) else none
        else if magnitude < bound then some (.ofNat magnitude) else none
    | none => none

/-- `int.tryParse`: decimal digits, or hexadecimal ones of up to 64 bits after `0x`. -/
def tryParse (source : Text) : Option Int64 :=
  let (negative, digits) := match trim source with
    | 0x2b :: rest => (false, rest)
    | 0x2d :: rest => (true, rest)
    | digits => (false, digits)
  match digits with
  | 0x30 :: 0x78 :: hex => signed negative (2 ^ 64) 16 hex
  | 0x30 :: 0x58 :: hex => signed negative (2 ^ 64) 16 hex
  | digits => signed negative (2 ^ 63) 10 digits

/-! ## JSON values -/

inductive JsonValue where
  | null
  | bool (value : Bool)
  | num (value : Num)
  | str (text : Text)
  | list (items : List JsonValue)
  | map (entries : List (Text × JsonValue))

/-- The entries in the order of the document. -/
abbrev JsonMap := List (Text × JsonValue)

/-- `json[key]`. A later entry takes the place of an earlier one. -/
def field (json : JsonMap) (key : String) : JsonValue :=
  (json.reverse.lookup (ascii key)).getD .null

namespace JsonValue

/-- `value ?? other`. -/
def orElse : JsonValue → JsonValue → JsonValue
  | .null, other => other
  | value, _ => value

/-- `value == true`. -/
def isTrue : JsonValue → Bool
  | .bool value => value
  | _ => false

/-- `value is String`, with the string. -/
def asString : JsonValue → Option Text
  | .str text => some text
  | _ => none

end JsonValue

theorem JsonValue.isTrue_iff {value : JsonValue} : value.isTrue = true ↔ value = .bool true := by
  cases value <;> simp [isTrue]

end App
