/-!
White space of plain text: the characters with the Unicode property of that name.
-/

namespace GnssAdapter.Text

def isBlank (character : Char) : Bool :=
  let code := character.toNat
  (0x09 ≤ code && code ≤ 0x0D) || code == 0x20 || code == 0x85 || code == 0xA0 ||
    code == 0x1680 || (0x2000 ≤ code && code ≤ 0x200A) || code == 0x2028 || code == 0x2029 ||
    code == 0x202F || code == 0x205F || code == 0x3000

theorem isBlank_of_isWhitespace (character : Char) (h : character.isWhitespace = true) :
    isBlank character = true := by
  simp only [Char.isWhitespace, Bool.or_eq_true, decide_eq_true_eq] at h
  rcases h with ((rfl | rfl) | rfl) | rfl <;> decide

/-- Drops the white space at both ends. -/
def trim (text : List Char) : List Char :=
  ((text.dropWhile isBlank).reverse.dropWhile isBlank).reverse

/-- The parts between occurrences of a separator; always at least one. -/
def split (separator : Char) : List Char → List (List Char)
  | [] => [[]]
  | character :: rest =>
      if character = separator then [] :: split separator rest
      else
        match split separator rest with
        | [] => [[character]]
        | part :: parts => (character :: part) :: parts

end GnssAdapter.Text
