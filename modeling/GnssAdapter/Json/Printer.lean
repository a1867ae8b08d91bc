import GnssAdapter.Json.Value
import GnssAdapter.Text.Hex

/-!
Compact JSON text: no blanks, and only quotes, backslashes and control characters escaped.
-/

namespace GnssAdapter.JsonLayout

def escape (character : Char) : List Char :=
  match character with
  | '"' => ['\\', '"']
  | '\\' => ['\\', '\\']
  | '\n' => ['\\', 'n']
  | '\r' => ['\\', 'r']
  | '\t' => ['\\', 't']
  | _ =>
      if character.toNat = 0x08 then ['\\', 'b']
      else if character.toNat = 0x0C then ['\\', 'f']
      else if character.toNat < 0x20 then
        '\\' :: 'u' :: Text.fixedHex 4 character.toNat
      else [character]

def quote (text : JsonText) : String :=
  let characters := text.points.filterMap JsonText.scalar?
  "\"" ++ String.ofList (characters.flatMap escape) ++ "\""

def renderNumber (number : JsonNumber) : String :=
  let sign := if number.negative then "-" else ""
  let fraction :=
    if number.fraction.isEmpty then ""
    else "." ++ String.join (number.fraction.map toString)
  let exponent :=
    match number.exponent with
    | none => ""
    | some power => "e" ++ toString power
  sign ++ toString number.whole ++ fraction ++ exponent

mutual

/-- Appends the text of a value. -/
def append (text : String) : Json → String
  | .null => text ++ "null"
  | .bool value => text ++ if value then "true" else "false"
  | .number number => text ++ renderNumber number
  | .text value => text ++ quote value
  | .list items => appendItems (text ++ "[") items ++ "]"
  | .object fields => appendFields (text ++ "\x7b") fields ++ "\x7d"

def appendItems (text : String) : List Json → String
  | [] => text
  | [item] => append text item
  | item :: rest => appendItems (append text item ++ ",") rest

def appendFields (text : String) : List (JsonText × Json) → String
  | [] => text
  | [(name, value)] => append (text ++ quote name ++ ":") value
  | (name, value) :: rest => appendFields (append (text ++ quote name ++ ":") value ++ ",") rest

end

end GnssAdapter.JsonLayout

namespace GnssAdapter

def Json.render (json : Json) : String :=
  JsonLayout.append "" json

end GnssAdapter
