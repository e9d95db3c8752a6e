import WrapperGen.Table
import WrapperGen.Text.Blank
import WrapperGen.Text.Quoted

/-!
# JSON values

The values that a configuration file may hold. Integers are unbounded; any other number is kept as
its numeral, because the program only ever asks whether it is zero. A string in which half of a
surrogate pair stands alone is no text; it is kept as what it consists of.
-/

namespace WrapperGen

/-- One element of a string: a character, or half of a surrogate pair that stands alone. -/
inductive StringUnit where
  | char (c : Char)
  | half (unit : Nat)
  deriving DecidableEq, Repr

namespace StringUnit

/-- The character of a unit that has one. -/
def char? : StringUnit → Option Char
  | char c => some c
  | half _ => none

/-- The character that stands for a unit where only characters count. -/
def shown : StringUnit → Char
  | char c => c
  | half _ => '\uFFFD'

/-- How a unit is written in a quoted form with the delimiter. -/
def quoted (delimiter : Char) : StringUnit → Text
  | char c => Text.quotedChar delimiter c
  | half unit => "\\u" ++ Text.hexadecimal 4 unit

/--
Whether a unit has a place in what the system is handed, such as the name of a file. The halves from
DC80 to DCFF stand for the bytes from 80 to FF that belong to no character; no other half stands for
anything.
-/
def isNameable : StringUnit → Bool
  | char _ => true
  | half unit => 0xDC80 ≤ unit && unit ≤ 0xDCFF

/-- The non-empty runs of units between blanks, in order. -/
def fields (units : List StringUnit) : List (List StringUnit) :=
  (units.splitOnP fun unit => Text.isBlank unit.shown).filter (!·.isEmpty)

end StringUnit

/-- A JSON value. The members of an object stand in the order of first occurrence. -/
inductive Json where
  | null
  | bool (value : Bool)
  | int (value : Int)
  | real (numeral : Text)
  | string (value : Text)
  /-- A string that is no text. -/
  | broken (units : List StringUnit)
  | array (items : List Json)
  | object (members : List (Text × Json))
  deriving Inhabited, Repr

/--
Whether a numeral denotes a number that is rounded to zero: one whose digits before the exponent
are all zero, or one of at most half of the least positive double, 2 to the power -1075.
-/
def isZeroNumeral (numeral : Text) : Bool :=
  let unsigned := numeral.filter (· != '-')
  let isExponent := fun c : Char => c == 'e' || c == 'E'
  let mantissa := (numeral.takeWhile (!isExponent ·)).filter (· != '-')
  let exponentText := (numeral.dropWhile (!isExponent ·)).drop 1
  if !(unsigned.headD 'N').isDigit then false
  else
    let value := fun digits : Text => digits.foldl (fun n d => n * 10 + (d.toNat - '0'.toNat)) 0
    let digits := value (mantissa.filter Char.isDigit)
    let places := (mantissa.dropWhile (· != '.')).drop 1 |>.length
    let size := value (exponentText.filter Char.isDigit)
    let exponent : Int := (if exponentText.head? = some '-' then -(size : Int) else size) - places
    if digits = 0 then true
    else if 0 ≤ exponent then false
    else if (mantissa.length : Int) + 330 < -exponent then true
    else digits * Nat.pow 2 1075 ≤ Nat.pow 10 exponent.natAbs

namespace Json

/-- Whether a value counts as given: neither null, nor false, nor zero, nor empty. -/
def isGiven : Json → Bool
  | null => false
  | bool value => value
  | int value => value != 0
  | real numeral => !isZeroNumeral numeral
  | string value => !value.isEmpty
  | broken units => !units.isEmpty
  | array items => !items.isEmpty
  | object members => !members.isEmpty

/-- The text of units, with U+FFFD in place of every half. -/
def shownUnits (units : List StringUnit) : Text := units.map StringUnit.shown

/-- The string that consists of the units. -/
def ofUnits (units : List StringUnit) : Json :=
  match units.mapM StringUnit.char? with
  | some value => string value
  | none => broken units

/-- The characters of a string. -/
def text? : Json → Option Text
  | string value => some value
  | broken units => some (shownUnits units)
  | _ => none

/-- What a string consists of. -/
def units? : Json → Option (List StringUnit)
  | string value => some (value.map .char)
  | broken units => some units
  | _ => none

/-- What the items consist of, if all of them are strings. -/
def strings? (items : List Json) : Option (List (List StringUnit)) := items.mapM units?

/-- Units in quotes, as a text with the same characters would be. -/
def quotedUnits (units : List StringUnit) : Text :=
  let delimiter := Text.delimiterFor (shownUnits units)
  delimiter :: units.flatMap (StringUnit.quoted delimiter) ++ [delimiter]

mutual

/-- The value as messages show it inside of another value: strings stand in quotes. -/
def quoted : Json → Text
  | null => "None"
  | bool value => if value then "True" else "False"
  | int value => Text.integer value
  | real numeral => numeral
  | string value => Text.quoted value
  | broken units => quotedUnits units
  | array items => "[" ++ Text.join ", " (quotedItems items) ++ "]"
  | object members => "\x7b" ++ Text.join ", " (quotedMembers members) ++ "\x7d"

/-- The items as messages show them. -/
def quotedItems : List Json → List Text
  | [] => []
  | item :: items => quoted item :: quotedItems items

/-- The members as messages show them. -/
def quotedMembers : List (Text × Json) → List Text
  | [] => []
  | (name, value) :: members =>
    (Text.quoted name ++ ": " ++ quoted value) :: quotedMembers members

end

/-- The value as messages show it: a string as its characters. -/
def shown (value : Json) : Text := (text? value).getD (quoted value)

end Json

end WrapperGen
