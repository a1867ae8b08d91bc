import Mathlib.Data.List.Basic
import GnssAdapter.Network.Presentation

/-!
Client addresses as they are packed: two characters to a byte, the first one in the low half, and a
filler in the last half if their number is odd.

What is packed is read back, with a plus sign for the mark of an international number. The filler is
no character, so reading ends there whatever follows.
-/

namespace GnssAdapter

namespace ClientAddress

/-- The code of a character is its place in the alphabet. -/
def code (character : Char) : Nat :=
  alphabet.idxOf character

/-- The half byte that fills up an odd number of characters. -/
def filler : Nat := 15

/-- The byte with these halves. -/
def byteOf (low high : Nat) : UInt8 :=
  UInt8.ofNat (low + 16 * high)

/-- The bytes for the characters of an address. -/
def pack : List Char → List UInt8
  | [] => []
  | [last] => [byteOf (code last) filler]
  | first :: second :: rest => byteOf (code first) (code second) :: pack rest

/-! ### Characters and codes -/

theorem code_lt {character : Char} (hcharacter : character ∈ alphabet) : code character < 16 :=
  Nat.lt_trans (List.idxOf_lt_length_of_mem hcharacter) (by decide)

theorem digit?_code {character : Char} (hcharacter : character ∈ alphabet) :
    digit? (code character) = some character :=
  List.getElem?_idxOf hcharacter

theorem digit?_filler : digit? filler = none := rfl

theorem digits_code {character : Char} (hcharacter : character ∈ alphabet) (rest : List Nat) :
    digits (code character :: rest) = character :: digits rest := by
  rw [digits, digit?_code hcharacter]

theorem digits_filler (rest : List Nat) : digits (filler :: rest) = [] := by
  rw [digits, digit?_filler]

/-- A half that is no digit hides all that follows it. -/
theorem digits_append {read : List Nat} (hends : filler ∈ read) (rest : List Nat) :
    digits (read ++ rest) = digits read := by
  induction read with
  | nil => cases hends
  | cons half read ih =>
      rw [List.cons_append, digits, digits]
      cases hdigit : digit? half with
      | none => rfl
      | some digit =>
          have hother : filler ≠ half := by
            rintro rfl
            rw [digit?_filler] at hdigit
            cases hdigit
          rw [ih ((List.mem_cons.mp hends).resolve_left hother)]

theorem length_digits_le (read : List Nat) : (digits read).length ≤ read.length := by
  induction read with
  | nil => exact Nat.le_refl 0
  | cons half read ih =>
      rw [digits]
      cases digit? half with
      | none => exact Nat.zero_le _
      | some digit => exact Nat.succ_le_succ ih

/-! ### Halves of bytes -/

theorem halves_cons (byte : UInt8) (bytes : List UInt8) :
    halves (byte :: bytes) = byte.toNat % 16 :: byte.toNat / 16 :: halves bytes :=
  List.flatMap_cons ..

theorem halves_append (front back : List UInt8) :
    halves (front ++ back) = halves front ++ halves back :=
  List.flatMap_append ..

theorem length_halves (bytes : List UInt8) : (halves bytes).length = 2 * bytes.length := by
  induction bytes with
  | nil => rfl
  | cons byte bytes ih =>
      rw [halves_cons, List.length_cons, List.length_cons, List.length_cons, ih]
      omega

theorem halves_byteOf {low high : Nat} (hlow : low < 16) (hhigh : high < 16) (bytes : List UInt8) :
    halves (byteOf low high :: bytes) = low :: high :: halves bytes := by
  have hbyte : (byteOf low high).toNat = low + 16 * high :=
    UInt8.toNat_ofNat_of_lt' (by
      unfold UInt8.size
      omega)
  have hremainder : (low + 16 * high) % 16 = low := by omega
  have hquotient : (low + 16 * high) / 16 = high := by omega
  rw [halves_cons, hbyte, hremainder, hquotient]

theorem digits_halves_pack (characters : List Char)
    (hcharacters : ∀ character ∈ characters, character ∈ alphabet) :
    digits (halves (pack characters)) = characters := by
  fun_induction pack characters with
  | case1 => rfl
  | case2 last =>
      have hlast := hcharacters last (List.mem_singleton_self last)
      rw [halves_byteOf (code_lt hlast) (by decide), digits_code hlast, digits_filler]
  | case3 first second rest ih =>
      rw [List.forall_mem_cons, List.forall_mem_cons] at hcharacters
      obtain ⟨hfirst, hsecond, hrest⟩ := hcharacters
      rw [halves_byteOf (code_lt hfirst) (code_lt hsecond), digits_code hfirst,
        digits_code hsecond, ih hrest]

/-! ### Reading addresses -/

theorem unpack_cons (first : UInt8) (rest : List UInt8) :
    unpack (first :: rest) =
      if first = internationalMark then '+' :: digits (halves rest)
      else digits (halves (first :: rest)) := rfl

theorem unpack_mark (bytes : List UInt8) :
    unpack (internationalMark :: bytes) = '+' :: digits (halves bytes) := by
  rw [unpack_cons, if_pos rfl]

theorem unpack_of_not_mark {bytes : List UInt8} (hfirst : bytes.head? ≠ some internationalMark) :
    unpack bytes = digits (halves bytes) := by
  cases bytes with
  | nil => rfl
  | cons first rest => rw [unpack_cons, if_neg fun hmark => hfirst (congrArg some hmark)]

/-- The one ambiguity of the format: an address that begins with 19 begins with the mark. -/
theorem unpack_pack_nineteen {characters : List Char}
    (hcharacters : ∀ character ∈ characters, character ∈ alphabet) :
    unpack (pack ('1' :: '9' :: characters)) = '+' :: characters := by
  change unpack (internationalMark :: pack characters) = _
  rw [unpack_mark, digits_halves_pack characters hcharacters]

theorem filler_not_mem_mark : filler ∉ halves [internationalMark] := by
  decide

/-- Reading ends with the first byte that holds a filler, and the mark holds none. -/
theorem unpack_append {last : UInt8} (hends : filler ∈ halves [last]) (read rest : List UInt8) :
    unpack (read ++ last :: rest) = unpack (read ++ [last]) := by
  have hhidden (front : List UInt8) :
      digits (halves (front ++ last :: rest)) = digits (halves (front ++ [last])) := by
    rw [List.append_cons, halves_append]
    refine digits_append ?_ _
    rw [halves_append]
    exact List.mem_append_right _ hends
  cases read with
  | nil =>
      have hlast : last ≠ internationalMark := by
        rintro rfl
        exact filler_not_mem_mark hends
      rw [List.nil_append, List.nil_append, unpack_cons, unpack_cons, if_neg hlast, if_neg hlast]
      exact hhidden []
  | cons first read =>
      rw [List.cons_append, List.cons_append, unpack_cons, unpack_cons, hhidden read]
      rw [← List.cons_append, ← List.cons_append, hhidden (first :: read)]

theorem length_unpack_le (bytes : List UInt8) : (unpack bytes).length ≤ 2 * bytes.length := by
  have hread (read : List UInt8) : (digits (halves read)).length ≤ 2 * read.length := by
    rw [← length_halves]
    exact length_digits_le _
  cases bytes with
  | nil => exact Nat.le_refl 0
  | cons first rest =>
      rw [unpack_cons]
      split
      case isTrue =>
        have hrest := hread rest
        rw [List.length_cons, List.length_cons]
        omega
      case isFalse => exact hread (first :: rest)

/-- What is packed is read back, with or without the mark of an international number. Of any bytes,
those after the first filler do not matter, and no byte gives more than two characters. -/
theorem unpack_reads_packed (characters : List Char)
    (hcharacters : ∀ character ∈ characters, character ∈ alphabet) :
    unpack (internationalMark :: pack characters) = '+' :: characters ∧
      ((pack characters).head? ≠ some internationalMark →
        unpack (pack characters) = characters) ∧
      (∀ (read : List UInt8) (last : UInt8) (rest : List UInt8), filler ∈ halves [last] →
        unpack (read ++ last :: rest) = unpack (read ++ [last])) ∧
      ∀ bytes, (unpack bytes).length ≤ 2 * bytes.length := by
  have hback := digits_halves_pack characters hcharacters
  refine ⟨?_, fun hfirst => ?_, fun read last rest hends => unpack_append hends read rest,
    length_unpack_le⟩
  · rw [unpack_mark, hback]
  · rw [unpack_of_not_mark hfirst, hback]

/-- An odd number of characters, so that the last byte holds a filler. -/
theorem unpack_reads_packed_odd :
    (∀ character ∈ ['1', '2', '*', '#', 'c'], character ∈ alphabet) ∧
      (pack ['1', '2', '*', '#', 'c']).head? ≠ some internationalMark ∧
      filler ∈ halves [0xFE] ∧
      unpack [0x91, 0x21, 0xBA, 0xFE] = ['+', '1', '2', '*', '#', 'c'] ∧
      unpack [0x21, 0xBA, 0xFE] = ['1', '2', '*', '#', 'c'] ∧
      unpack [0x21, 0xBA, 0xFE, 0x43] = unpack [0x21, 0xBA, 0xFE] := by
  have halphabet : ∀ character ∈ ['1', '2', '*', '#', 'c'], character ∈ alphabet := by
    simp [alphabet]
  obtain ⟨hmarked, hplain, hhidden, -⟩ := unpack_reads_packed _ halphabet
  exact ⟨halphabet, by decide, by decide, hmarked, hplain (by decide),
    hhidden [0x21, 0xBA] 0xFE [0x43] (by decide)⟩

end ClientAddress

end GnssAdapter
