import GnssAdapter.Json.Value
import GnssAdapter.Text.Hex

/-!
The layout, the quoted texts and the keys of TOML. Each reader returns what it has read and the
characters after it.
-/

namespace GnssAdapter.TomlGrammar

def isBlank (character : Char) : Bool :=
  character = ' ' || character = '\t'

/-- Every character of a line that may stand for itself. -/
def isPlain (character : Char) : Bool :=
  character = '\t' || (' ' ≤ character && character ≠ '\x7F')

def skipBlanks (text : List Char) : List Char :=
  text.dropWhile isBlank

/-- The end of a line, which is left standing, or the end of the text. -/
def atLineEnd : List Char → Bool
  | [] => true
  | '\n' :: _ => true
  | '\r' :: '\n' :: _ => true
  | _ => false

/-- Passes over the rest of a comment. -/
def skipComment (text : List Char) : Option (List Char) :=
  let rest := text.dropWhile isPlain
  if atLineEnd rest then some rest else none

/-- Nothing but a comment follows on the line. -/
def finishLine (text : List Char) : Option (List Char) :=
  match skipBlanks text with
  | '#' :: rest => skipComment rest
  | rest => if atLineEnd rest then some rest else none

/-- Passes over blanks, comments and ends of lines. -/
def skipLayout : Nat → List Char → Option (List Char)
  | 0, _ => none
  | fuel + 1, text =>
      match skipBlanks text with
      | '\n' :: rest => skipLayout fuel rest
      | '\r' :: '\n' :: rest => skipLayout fuel rest
      | '#' :: rest => (skipComment rest).bind (skipLayout fuel)
      | rest => some rest

/-- How a text is quoted. -/
structure Quoting where
  quote : Char
  /-- A backslash begins an escape. -/
  escapes : Bool
  /-- Three quotes stand at each end, and lines may end in between. -/
  tripled : Bool

namespace Quoting

def basic : Quoting := ⟨'"', true, false⟩
def literal : Quoting := ⟨'\'', false, false⟩
def basicLines : Quoting := ⟨'"', true, true⟩
def literalLines : Quoting := ⟨'\'', false, true⟩

/-- The closing quotes. Up to two quotes right before three closing ones belong to the text. -/
def close? (quoting : Quoting) (text : List Char) : Option (List Char × List Char) :=
  let quotes := (text.takeWhile (· = quoting.quote)).length
  if quoting.tripled then
    if quotes < 3 then none
    else
      let within := min quotes 5 - 3
      some (List.replicate within quoting.quote, text.drop (within + 3))
  else if quotes = 0 then none
  else some ([], text.drop 1)

end Quoting

def escapedCharacter? (digits : List Char) : Option Char :=
  (Text.hexValue? digits).bind JsonText.scalar?

/-- The character of an escape, after its backslash. -/
def readEscape : List Char → Option (Char × List Char)
  | 'b' :: rest => some ('\x08', rest)
  | 't' :: rest => some ('\t', rest)
  | 'n' :: rest => some ('\n', rest)
  | 'f' :: rest => some ('\x0C', rest)
  | 'r' :: rest => some ('\r', rest)
  | 'e' :: rest => some ('\x1B', rest)
  | '"' :: rest => some ('"', rest)
  | '\\' :: rest => some ('\\', rest)
  | 'x' :: rest => readPoint 2 rest
  | 'u' :: rest => readPoint 4 rest
  | 'U' :: rest => readPoint 8 rest
  | _ => none
where
  readPoint (width : Nat) (text : List Char) : Option (Char × List Char) := do
    guard (width ≤ text.length)
    let character ← escapedCharacter? (text.take width)
    some (character, text.drop width)

/-- After a backslash at the end of a line: the first character that is not layout. -/
def joinLine? (text : List Char) : Option (List Char) :=
  let rest := skipBlanks text
  if atLineEnd rest && !rest.isEmpty then
    some (rest.dropWhile fun character => isBlank character || character = '\n' || character = '\r')
  else none

/-- The rest of a text after its opening quotes. -/
def readQuoted (quoting : Quoting) : Nat → List Char → Option (List Char × List Char)
  | 0, _ => none
  | fuel + 1, text =>
      match quoting.close? text with
      | some result => some result
      | none => do
          let (character, rest) ← text.head?.map (·, text.drop 1)
          if character = '\\' && quoting.escapes then
            match if quoting.tripled then joinLine? rest else none with
            | some rest => readQuoted quoting fuel rest
            | none =>
                let (character, rest) ← readEscape rest
                let (characters, rest) ← readQuoted quoting fuel rest
                some (character :: characters, rest)
          else
            guard (isPlain character || (quoting.tripled && atLineEnd text))
            let (characters, rest) ← readQuoted quoting fuel rest
            some (character :: characters, rest)

/-- A line that ends right after three opening quotes is not part of the text. -/
def skipFirstLineEnd : List Char → List Char
  | '\n' :: rest => rest
  | '\r' :: '\n' :: rest => rest
  | text => text

/-- A text in any of the four quotings. -/
def readText (text : List Char) : Option (String × List Char) :=
  let read (quoting : Quoting) (rest : List Char) :=
    (readQuoted quoting (rest.length + 1) rest).map fun (characters, rest) =>
      (String.ofList characters, rest)
  match text with
  | '"' :: '"' :: '"' :: rest => read .basicLines (skipFirstLineEnd rest)
  | '\'' :: '\'' :: '\'' :: rest => read .literalLines (skipFirstLineEnd rest)
  | '"' :: rest => read .basic rest
  | '\'' :: rest => read .literal rest
  | _ => none

def isBareKey (character : Char) : Bool :=
  character.isAlphanum || character = '-' || character = '_'

/-- A bare or quoted key; a key does not span lines. -/
def readKey (text : List Char) : Option (String × List Char) :=
  match text with
  | '"' :: '"' :: '"' :: _ => none
  | '\'' :: '\'' :: '\'' :: _ => none
  | '"' :: _ => readText text
  | '\'' :: _ => readText text
  | _ => do
      let key := text.takeWhile isBareKey
      guard (!key.isEmpty)
      some (String.ofList key, text.dropWhile isBareKey)

/-- One key or several with dots between them, and the blanks after it. -/
def readKeys : Nat → List Char → Option (List String × List Char)
  | 0, _ => none
  | fuel + 1, text => do
      let (key, rest) ← readKey text
      match skipBlanks rest with
      | '.' :: rest =>
          let (keys, rest) ← readKeys fuel (skipBlanks rest)
          some (key :: keys, rest)
      | rest => some ([key], rest)

end GnssAdapter.TomlGrammar
