import GnssAdapter.Json.Value
import GnssAdapter.Text.Hex

/-!
The JSON grammar, read from the front of a list of characters. Each reader returns what it has
read and the characters after it.
-/

namespace GnssAdapter.JsonGrammar

def skipBlanks (text : List Char) : List Char :=
  text.dropWhile fun character =>
    character = ' ' || character = '\n' || character = '\t' || character = '\r'

def digitValue (character : Char) : Nat :=
  character.toNat - '0'.toNat

/-- A run of digits, by value. -/
def readDigits (text : List Char) : List Nat × List Char :=
  ((text.takeWhile Char.isDigit).map digitValue, text.dropWhile Char.isDigit)

def numberOfDigits (digits : List Nat) : Nat :=
  digits.foldl (fun value digit => 10 * value + digit) 0

/-- The digits after a point, of which there is at least one. -/
def readFraction : List Char → Option (List Nat × List Char)
  | '.' :: rest =>
      match readDigits rest with
      | ([], _) => none
      | (digits, rest) => some (digits, rest)
  | text => some ([], text)

/-- The power of ten after an `e` of either case. -/
def readExponent : List Char → Option (Option Int × List Char)
  | letter :: rest =>
      if letter = 'e' ∨ letter = 'E' then
        let negative := rest.head? = some '-'
        let rest := if negative ∨ rest.head? = some '+' then rest.drop 1 else rest
        match readDigits rest with
        | ([], _) => none
        | (digits, rest) =>
            let magnitude : Int := numberOfDigits digits
            some (some (if negative then -magnitude else magnitude), rest)
      else some (none, letter :: rest)
  | [] => some (none, [])

/-- A number: no zero before other digits, and a digit on both sides of a point. -/
def readNumber (text : List Char) : Option (JsonNumber × List Char) := do
  let negative := text.head? = some '-'
  let text := if negative then text.drop 1 else text
  let (whole, text) := readDigits text
  guard (!whole.isEmpty && (whole.length = 1 || whole.head? != some 0))
  let (fraction, text) ← readFraction text
  let (exponent, text) ← readExponent text
  some (⟨negative, numberOfDigits whole, fraction, exponent⟩, text)

def escapedPoint? : Char → Option Nat
  | '"' => some 0x22
  | '\\' => some 0x5C
  | '/' => some 0x2F
  | 'b' => some 0x08
  | 'f' => some 0x0C
  | 'n' => some 0x0A
  | 'r' => some 0x0D
  | 't' => some 0x09
  | _ => none

/-- The rest of a text after its opening quote. -/
def readText : List Char → Option (JsonText × List Char)
  | [] => none
  | '"' :: rest => some (⟨[], false⟩, rest)
  | '\\' :: 'u' :: a :: b :: c :: d :: rest => do
      let point ← Text.hexValue? [a, b, c, d]
      let (text, rest) ← readText rest
      some ({ text with points := point :: text.points }, rest)
  | '\\' :: letter :: rest => do
      let point ← escapedPoint? letter
      let (text, rest) ← readText rest
      some ({ text with points := point :: text.points }, rest)
  | character :: rest => do
      guard (character ≠ '\\')
      let (text, rest) ← readText rest
      some (⟨character.toNat :: text.points, text.hasControl || character.toNat < 0x20⟩, rest)

/-- The rest of a text after its opening quote, surrogate halves joined. -/
def readJoinedText (text : List Char) : Option (JsonText × List Char) :=
  (readText text).map fun (text, rest) =>
    ({ text with points := JsonText.joinPairs text.points }, rest)

mutual

/-- A value; the fuel bounds the count of values and separators in it. -/
def readValue : Nat → List Char → Option (Json × List Char)
  | 0, _ => none
  | fuel + 1, text =>
      match skipBlanks text with
      | 'n' :: 'u' :: 'l' :: 'l' :: rest => some (.null, rest)
      | 't' :: 'r' :: 'u' :: 'e' :: rest => some (.bool true, rest)
      | 'f' :: 'a' :: 'l' :: 's' :: 'e' :: rest => some (.bool false, rest)
      | '"' :: rest => (readJoinedText rest).map fun (text, rest) => (.text text, rest)
      | '[' :: rest =>
          match skipBlanks rest with
          | ']' :: rest => some (.list [], rest)
          | rest => (readItems fuel rest).map fun (items, rest) => (.list items, rest)
      | '{' :: rest =>
          match skipBlanks rest with
          | '}' :: rest => some (.object [], rest)
          | rest => (readFields fuel rest).map fun (fields, rest) => (.object fields, rest)
      | text => (readNumber text).map fun (number, rest) => (.number number, rest)

/-- The items of a list up to its closing bracket. -/
def readItems : Nat → List Char → Option (List Json × List Char)
  | 0, _ => none
  | fuel + 1, text => do
      let (item, rest) ← readValue fuel text
      match skipBlanks rest with
      | ',' :: rest =>
          let (items, rest) ← readItems fuel rest
          some (item :: items, rest)
      | ']' :: rest => some ([item], rest)
      | _ => none

/-- The fields of an object up to its closing brace. -/
def readFields : Nat → List Char → Option (List (JsonText × Json) × List Char)
  | 0, _ => none
  | fuel + 1, text =>
      match skipBlanks text with
      | '"' :: rest => do
          let (name, rest) ← readJoinedText rest
          match skipBlanks rest with
          | ':' :: rest =>
              let (value, rest) ← readValue fuel rest
              match skipBlanks rest with
              | ',' :: rest =>
                  let (fields, rest) ← readFields fuel rest
                  some ((name, value) :: fields, rest)
              | '}' :: rest => some ([(name, value)], rest)
              | _ => none
          | _ => none
      | _ => none

end

end GnssAdapter.JsonGrammar

namespace GnssAdapter

/-- One value and nothing after it but blanks. -/
def Json.parse? (text : String) : Option Json := do
  let characters := text.toList
  let (value, rest) ← JsonGrammar.readValue (characters.length + 1) characters
  guard (JsonGrammar.skipBlanks rest).isEmpty
  some value

end GnssAdapter
