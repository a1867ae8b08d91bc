import GnssAdapter.Number.Decimal
import GnssAdapter.Text.Blank
import GnssAdapter.Toml.Text
import GnssAdapter.Toml.Table

/-!
The unquoted scalars of TOML: truth values, numbers, dates and times of day.
-/

namespace GnssAdapter.TomlGrammar

open Toml (Value)

/-- The digits of a run in which single underscores may stand between digits. -/
def digitRun? (isDigit : Char → Bool) : List Char → Option (List Char)
  | [] => none
  | [digit] => if isDigit digit then some [digit] else none
  | digit :: '_' :: rest =>
      if isDigit digit then (digitRun? isDigit rest).map (digit :: ·) else none
  | digit :: rest =>
      if isDigit digit then (digitRun? isDigit rest).map (digit :: ·) else none

def isBinaryDigit (character : Char) : Bool :=
  character = '0' || character = '1'

def isOctalDigit (character : Char) : Bool :=
  '0' ≤ character && character ≤ '7'

def isHexDigit (character : Char) : Bool :=
  (Text.hexDigit? character).isSome

/-- The number of a run of digits in a base. -/
def baseNumber? (base : Nat) (isDigit : Char → Bool) (text : List Char) : Option Nat := do
  let digits ← digitRun? isDigit text
  digits.foldlM (fun value digit => (Text.hexDigit? digit).map (base * value + ·)) 0

/-- A sign, if there is one, and what it stands before. -/
def splitSign : List Char → Bool × List Char
  | '-' :: rest => (true, rest)
  | '+' :: rest => (false, rest)
  | text => (false, text)

/-- The digits of a decimal number, of which the first is no zero before others. -/
def wholeDigits? (text : List Char) : Option (List Char) := do
  let digits ← digitRun? Char.isDigit text
  guard (digits.length = 1 || digits.head? != some '0')
  some digits

/-- The range of the widest whole numbers that a document may hold. -/
def isRepresentable (value : Int) : Bool :=
  -Nat.pow 2 127 ≤ value && value < Nat.pow 2 128

/-- A decimal number with a sign, or one in base sixteen, eight or two without. -/
def integer? (text : List Char) : Option Int := do
  let value : Int ←
    match text with
    | '0' :: 'x' :: rest => (baseNumber? 16 isHexDigit rest).map Int.ofNat
    | '0' :: 'o' :: rest => (baseNumber? 8 isOctalDigit rest).map Int.ofNat
    | '0' :: 'b' :: rest => (baseNumber? 2 isBinaryDigit rest).map Int.ofNat
    | _ => do
        let (negative, rest) := splitSign text
        let digits ← wholeDigits? rest
        let magnitude ← baseNumber? 10 Char.isDigit digits
        some (if negative then -magnitude else magnitude)
  guard (isRepresentable value)
  some value

/-- A number with a point, an exponent or both, or one of the names of the numbers that have no
digits. A number with digits is finite. -/
def float? (text : List Char) : Option Float := do
  let (negative, body) := splitSign text
  let magnitude ←
    if body = "inf".toList then some (1.0 / 0.0)
    else if body = "nan".toList then some (0.0 / 0.0)
    else do
      let isExponent (character : Char) : Bool := character = 'e' || character = 'E'
      let mantissa := body.takeWhile (!isExponent ·)
      let tail := (body.dropWhile (!isExponent ·)).drop 1
      let whole ← wholeDigits? (mantissa.takeWhile (· ≠ '.'))
      let fraction ←
        if mantissa.contains '.' then
          digitRun? Char.isDigit ((mantissa.dropWhile (· ≠ '.')).drop 1)
        else some []
      let exponent : Int ←
        if mantissa.length = body.length then some 0
        else do
          let (below, digits) := splitSign tail
          let exponent ← baseNumber? 10 Char.isDigit digits
          some (if below then -exponent else exponent)
      guard (mantissa.contains '.' || mantissa.length < body.length)
      let digits ← baseNumber? 10 Char.isDigit (whole ++ fraction)
      let value := Number.ofDecimal ⟨digits, exponent - fraction.length⟩
      guard value.isFinite
      some value
  some (if negative then -magnitude else magnitude)

/-- The number of exactly as many digits as asked for. -/
def fixedDigits? (width : Nat) (text : List Char) : Option Nat := do
  guard (text.length = width && text.all Char.isDigit)
  baseNumber? 10 Char.isDigit text

def isLeapYear (year : Nat) : Bool :=
  year % 4 = 0 && (year % 100 ≠ 0 || year % 400 = 0)

def daysInMonth (year month : Nat) : Nat :=
  if month = 2 then if isLeapYear year then 29 else 28
  else if month = 4 ∨ month = 6 ∨ month = 9 ∨ month = 11 then 30
  else 31

/-- A date of the calendar, as year, month and day. -/
def isDate (text : List Char) : Bool :=
  match Text.split '-' text with
  | [year, month, day] =>
      match fixedDigits? 4 year, fixedDigits? 2 month, fixedDigits? 2 day with
      | some year, some month, some day =>
          1 ≤ month && month ≤ 12 && 1 ≤ day && day ≤ daysInMonth year month
      | _, _, _ => false
  | _ => false

def isBelow (width bound : Nat) (text : List Char) : Bool :=
  match fixedDigits? width text with
  | some value => value < bound
  | none => false

/-- Whole seconds, the sixtieth for a leap, and digits after a point. -/
def isSeconds (text : List Char) : Bool :=
  match Text.split '.' text with
  | [seconds] => isBelow 2 61 seconds
  | [seconds, fraction] => isBelow 2 61 seconds && !fraction.isEmpty && fraction.all Char.isDigit
  | _ => false

/-- A time of day; the seconds may be left out. -/
def isTime (text : List Char) : Bool :=
  match Text.split ':' text with
  | [hour, minute] => isBelow 2 24 hour && isBelow 2 60 minute
  | [hour, minute, seconds] => isBelow 2 24 hour && isBelow 2 60 minute && isSeconds seconds
  | _ => false

def isOffset (text : List Char) : Bool :=
  match Text.split ':' text with
  | [hour, minute] => isBelow 2 24 hour && isBelow 2 60 minute
  | _ => false

/-- A time of day with what may follow it after a date: nothing, a `Z`, or a signed offset. -/
def isTimeWithOffset (text : List Char) : Bool :=
  let isMark (character : Char) : Bool :=
    character = '+' || character = '-' || character = 'Z' || character = 'z'
  let time := text.takeWhile (!isMark ·)
  isTime time &&
    match text.drop time.length with
    | [] => true
    | [mark] => mark = 'Z' || mark = 'z'
    | mark :: offset => (mark = '+' || mark = '-') && isOffset offset

def isMoment (text : List Char) : Bool :=
  let date := text.take 10
  isTime text ||
    isDate date &&
      match text.drop 10 with
      | [] => true
      | mark :: time => (mark = 'T' || mark = 't' || mark = ' ') && isTimeWithOffset time

def isScalar (character : Char) : Bool :=
  character.isAlphanum || "+-_.:".toList.contains character

/-- The characters of an unquoted scalar: one run, or a date, a blank and a time of day. -/
def splitScalar (text : List Char) : List Char × List Char :=
  let first := text.takeWhile isScalar
  match text.drop first.length with
  | ' ' :: digit :: rest =>
      if isDate first && digit.isDigit then
        let second := (digit :: rest).takeWhile isScalar
        (first ++ ' ' :: second, (digit :: rest).drop second.length)
      else (first, text.drop first.length)
  | rest => (first, rest)

/-- What an unquoted scalar stands for. -/
def scalar? (text : List Char) : Option Value :=
  if text = "true".toList then some (.bool true)
  else if text = "false".toList then some (.bool false)
  else if isMoment text then some .moment
  else (integer? text).map .integer <|> (float? text).map .float

def readScalar (text : List Char) : Option (Value × List Char) :=
  let (scalar, rest) := splitScalar text
  (scalar? scalar).map (·, rest)

end GnssAdapter.TomlGrammar
