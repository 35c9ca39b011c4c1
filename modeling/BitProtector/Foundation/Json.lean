import Mathlib.Data.List.Basic

/-! Texts of JSON and what `JSON.parse` makes of them. Strings are sequences of UTF-16 units, numbers are
doubles. -/
namespace BitProtector.Json

/-! Values. -/

/-- A double; the two zeros are one. -/
inductive Number
  | finite (value : Rat)
  | infinity (negative : Bool)
  deriving DecidableEq

inductive Value
  | null
  | bool (value : Bool)
  | number (number : Number)
  | string (units : List Nat)
  | array (items : List Value)
  | object (fields : List (List Nat × Value))

/-! Doubles. -/

/-- The nearest whole number of a quotient, the even one between two. -/
def roundHalfEven (a b : Nat) : Nat :=
  if 2 * (a % b) < b then a / b
  else if b < 2 * (a % b) then a / b + 1
  else a / b + a / b % 2

/-- The exponent of the largest power of two in a quotient. -/
def magnitude (a b : Nat) : Int :=
  let guess : Int := (a.log2 : Int) - b.log2
  if b * Nat.pow 2 guess.toNat ≤ a * Nat.pow 2 (-guess).toNat then guess else guess - 1

/-- The double nearest to a quotient: 53 binary digits, and exponents from -1074. -/
def nearest (negative : Bool) (a b : Nat) : Number :=
  if a = 0 then .finite (mkRat 0 1)
  else
    let exponent := max (magnitude a b - 52) (-1074)
    let whole := roundHalfEven (a * Nat.pow 2 (-exponent).toNat) (b * Nat.pow 2 exponent.toNat)
    if Nat.pow 2 1024 ≤ whole * Nat.pow 2 exponent.toNat then .infinity negative
    else
      let size : Int := (whole * Nat.pow 2 exponent.toNat : Nat)
      .finite (mkRat (if negative then -size else size) (Nat.pow 2 (-exponent).toNat))

/-! Words. -/

def isBlank (c : Char) : Bool := c == ' ' || c == '\t' || c == '\n' || c == '\r'

def skip (text : List Char) : List Char := text.dropWhile isBlank

def expect (c : Char) (text : List Char) : Option (List Char) := if text.head? = some c then some text.tail else none

def word (letters : List Char) (value : Value) (text : List Char) : Option (Value × List Char) :=
  if letters.isPrefixOf text then some (value,text.drop letters.length) else none

/-! Strings. -/

/-- The UTF-16 units of a character. -/
def utf16 (c : Char) : List Nat :=
  if c.toNat < 0x10000 then [c.toNat]
  else [0xD800 + (c.toNat - 0x10000) / 0x400,0xDC00 + (c.toNat - 0x10000) % 0x400]

def encode (text : List Char) : List Nat := text.flatMap utf16

def escape (c : Char) : Option Nat :=
  if c = '"' ∨ c = '\\' ∨ c = '/' then some c.toNat
  else if c = 'b' then some 8
  else if c = 'f' then some 12
  else if c = 'n' then some 10
  else if c = 'r' then some 13
  else if c = 't' then some 9
  else none

def hexDigit (c : Char) : Option Nat :=
  if '0' ≤ c ∧ c ≤ '9' then some (c.toNat - 48)
  else if 'a' ≤ c ∧ c ≤ 'f' then some (c.toNat - 87)
  else if 'A' ≤ c ∧ c ≤ 'F' then some (c.toNat - 55)
  else none

/-- Where the reader of a string is: between characters, behind a backslash, or before the last digits of `\uXXXX`. -/
inductive Mode
  | plain
  | escape
  | hex (left value : Nat)

def prepend (units : List Nat) (read : List Nat × List Char) : List Nat × List Char := (units ++ read.1,read.2)

/-- What follows the opening quote. -/
def parseString : Mode → List Char → Option (List Nat × List Char)
  | _,[] => none
  | .plain,c::text =>
    if c = '"' then some ([],text)
    else if c = '\\' then parseString .escape text
    else if c.toNat < 32 then none
    else (parseString .plain text).map (prepend (utf16 c))
  | .escape,c::text =>
    if c = 'u' then parseString (.hex 3 0) text
    else (escape c).bind fun unit => (parseString .plain text).map (prepend [unit])
  | .hex left value,c::text =>
    (hexDigit c).bind fun digit =>
      if left = 0 then (parseString .plain text).map (prepend [value * 16 + digit])
      else parseString (.hex (left - 1) (value * 16 + digit)) text

/-! Numbers. -/

def decimals (digits : List Char) : Nat := digits.foldl (fun n c => 10 * n + (c.toNat - 48)) 0

/-- One digit or more. -/
def parseDigits (text : List Char) : Option (List Char × List Char) :=
  if text.takeWhile Char.isDigit = [] then none else some (text.takeWhile Char.isDigit,text.dropWhile Char.isDigit)

/-- The digits before the point, without leading zeros. -/
def parseWhole (text : List Char) : Option (List Char × List Char) :=
  (parseDigits text).bind fun read => if read.1.head? = some '0' ∧ read.1 ≠ ['0'] then none else some read

def parseFraction (text : List Char) : Option (List Char × List Char) :=
  if text.head? = some '.' then parseDigits text.tail else some ([],text)

def parseExponent (text : List Char) : Option (Int × List Char) :=
  if text.head? = some 'e' ∨ text.head? = some 'E' then
    if text.tail.head? = some '-' then (parseDigits text.tail.tail).map fun read => (-(decimals read.1 : Int),read.2)
    else if text.tail.head? = some '+' then (parseDigits text.tail.tail).map fun read => ((decimals read.1 : Int),read.2)
    else (parseDigits text.tail).map fun read => ((decimals read.1 : Int),read.2)
  else some (0,text)

/-- The double of a decimal. -/
def toDouble (negative : Bool) (digits : List Char) (exponent : Int) : Number :=
  nearest negative (decimals digits * Nat.pow 10 exponent.toNat) (Nat.pow 10 (-exponent).toNat)

def parseUnsigned (negative : Bool) (text : List Char) : Option (Value × List Char) :=
  (parseWhole text).bind fun whole => (parseFraction whole.2).bind fun fraction =>
    (parseExponent fraction.2).map fun exponent =>
      (.number (toDouble negative (whole.1 ++ fraction.1) (exponent.1 - fraction.1.length)),exponent.2)

def parseNumber (text : List Char) : Option (Value × List Char) :=
  if text.head? = some '-' then parseUnsigned true text.tail else parseUnsigned false text

/-! Values. -/

def parseWord (text : List Char) : Option (Value × List Char) :=
  if text.head? = some 't' then word ['t','r','u','e'] (.bool true) text
  else if text.head? = some 'f' then word ['f','a','l','s','e'] (.bool false) text
  else if text.head? = some 'n' then word ['n','u','l','l'] .null text
  else parseNumber text

/-- A field that comes again replaces the earlier one in its place. -/
def setField (key : List Nat) (value : Value) : List (List Nat × Value) → List (List Nat × Value)
  | [] => [(key,value)]
  | field::fields => if field.1 = key then (key,value)::fields else field::setField key value fields

def lastOfEach (members : List (List Nat × Value)) : List (List Nat × Value) :=
  members.foldl (fun fields member => setField member.1 member.2 fields) []

mutual

/-- A value at the beginning of a text, and what is left of the text. -/
def parseValue : Nat → List Char → Option (Value × List Char)
  | 0,_ => none
  | fuel + 1,text =>
    if text.head? = some '{' then
      if (skip text.tail).head? = some '}' then some (.object [],(skip text.tail).tail)
      else (parseMembers fuel (skip text.tail)).map fun read => (.object (lastOfEach read.1),read.2)
    else if text.head? = some '[' then
      if (skip text.tail).head? = some ']' then some (.array [],(skip text.tail).tail)
      else (parseElements fuel (skip text.tail)).map fun read => (.array read.1,read.2)
    else if text.head? = some '"' then (parseString .plain text.tail).map fun read => (.string read.1,read.2)
    else parseWord text

/-- The members of an object, and its closing brace. -/
def parseMembers : Nat → List Char → Option (List (List Nat × Value) × List Char)
  | 0,_ => none
  | fuel + 1,text =>
    (expect '"' text).bind fun text => (parseString .plain text).bind fun key =>
      (expect ':' (skip key.2)).bind fun text => (parseValue fuel (skip text)).bind fun value =>
        if (skip value.2).head? = some '}' then some ([(key.1,value.1)],(skip value.2).tail)
        else (expect ',' (skip value.2)).bind fun text =>
          (parseMembers fuel (skip text)).map fun read => ((key.1,value.1)::read.1,read.2)

def parseElements : Nat → List Char → Option (List Value × List Char)
  | 0,_ => none
  | fuel + 1,text =>
    (parseValue fuel text).bind fun value =>
      if (skip value.2).head? = some ']' then some ([value.1],(skip value.2).tail)
      else (expect ',' (skip value.2)).bind fun text =>
        (parseElements fuel (skip text)).map fun read => (value.1::read.1,read.2)

end

/-- `JSON.parse`, where an error is none. Every second call takes a character at least. -/
def parse (text : List Char) : Option Value :=
  (parseValue (2 * text.length + 2) (skip text)).bind fun read => if skip read.2 = [] then some read.1 else none

end BitProtector.Json
