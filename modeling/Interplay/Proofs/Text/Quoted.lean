import Mathlib.Data.Nat.Digits.Defs
import Mathlib.Tactic.IntervalCases
import Interplay.Text.Quoted

/-!
Quoted texts can be read back.

The escapes of a text form a prefix code: no escape of one character is the beginning of an escape
of another one, surrogate pairs included, since no character of its own is a surrogate.  So a quoted
text tells where it ends, and what stands in it.
-/

namespace Interplay
namespace Text

def hexDigit (digit : Char) : Nat :=
  if digit.toNat < 58 then digit.toNat - 48 else digit.toNat - 87

def hexValue (digits : List Char) : Nat :=
  digits.foldl (fun number digit => 16 * number + hexDigit digit) 0

theorem hex_digit_digit_char {digit : Nat} (small : digit < 16) :
    hexDigit digit.digitChar = digit := by
  interval_cases digit <;> rfl

theorem hex_value_append (front : List Char) (last : Char) :
    hexValue (front ++ [last]) = 16 * hexValue front + hexDigit last := by
  simp [hexValue]

theorem hex_value_to_digits (number : Nat) : hexValue (Nat.toDigits 16 number) = number := by
  induction number using Nat.strong_induction_on with
  | _ number ih =>
      rw [Nat.toDigits_eq_if (by decide)]
      split
      · rename_i small
        simp [hexValue, hex_digit_digit_char small]
      · rw [hex_value_append, ih (number / 16) (by omega), hex_digit_digit_char (by omega)]
        omega

theorem hex_value_hex (width number : Nat) : hexValue (hex width number) = number := by
  have padded : ∀ count, List.foldl (fun number digit => 16 * number + hexDigit digit) 0
      (List.replicate count '0') = 0 := by
    intro count
    induction count with
    | zero => rfl
    | succ count ih =>
        rw [List.replicate_succ, List.foldl_cons]
        exact ih
  unfold hexValue hex
  rw [List.foldl_append, padded]
  exact hex_value_to_digits number

theorem mem_to_digits {number : Nat} {digit : Char} (member : digit ∈ Nat.toDigits 16 number) :
    ∃ value < 16, digit = Nat.digitChar value := by
  induction number using Nat.strong_induction_on with
  | _ number ih =>
      rw [Nat.toDigits_eq_if (by decide)] at member
      split at member
      · rename_i small
        exact ⟨number, small, List.mem_singleton.mp member⟩
      · rcases List.mem_append.mp member with front | last
        · exact ih (number / 16) (by omega) front
        · exact ⟨number % 16, by omega, List.mem_singleton.mp last⟩

theorem mem_hex {width number : Nat} {digit : Char} (member : digit ∈ hex width number) :
    ∃ value < 16, digit = Nat.digitChar value := by
  rcases List.mem_append.mp member with padding | digits
  · exact ⟨0, by decide, (List.mem_replicate.mp padding).2⟩
  · exact mem_to_digits digits

theorem length_hex {width number : Nat} (positive : 0 < width) (fits : number < 16 ^ width) :
    (hex width number).length = width := by
  have short := (Nat.length_toDigits_le_iff (by decide) positive).mpr fits
  simp only [hex, List.length_append, List.length_replicate]
  omega

theorem escape_unit_append_inj {unit other : Nat} (fits : unit < 65536) (otherFits : other < 65536)
    {rest remainder : List Char} (equal : escapeUnit unit ++ rest = escapeUnit other ++ remainder) :
    unit = other ∧ rest = remainder := by
  simp only [escapeUnit, List.cons_append, List.cons.injEq, true_and] at equal
  have lengths : (hex 4 unit).length = (hex 4 other).length := by
    rw [length_hex (by decide) fits, length_hex (by decide) otherFits]
  obtain ⟨digits, tails⟩ := List.append_inj equal lengths
  have values := congrArg hexValue digits
  rw [hex_value_hex, hex_value_hex] at values
  exact ⟨values, tails⟩

theorem code_is_no_surrogate (character : Char) :
    character.toNat < 0xD800 ∨ 0xDFFF < character.toNat ∧ character.toNat < 0x110000 :=
  character.valid

theorem escape_units_append_inj {character other : Char} {rest remainder : List Char}
    (equal : escapeUnits character.toNat ++ rest = escapeUnits other.toNat ++ remainder) :
    character = other ∧ rest = remainder := by
  have valid := code_is_no_surrogate character
  have otherValid := code_is_no_surrogate other
  have codes : character.toNat = other.toNat ∧ rest = remainder := by
    unfold escapeUnits at equal
    split at equal <;> split at equal
    · exact escape_unit_append_inj (by omega) (by omega) equal
    -- a character of its own is no half of a pair
    · rw [List.append_assoc] at equal
      have high := (escape_unit_append_inj (by omega) (by omega) equal).1
      omega
    · rw [List.append_assoc] at equal
      have high := (escape_unit_append_inj (by omega) (by omega) equal).1
      omega
    · rw [List.append_assoc, List.append_assoc] at equal
      obtain ⟨high, others⟩ := escape_unit_append_inj (by omega) (by omega) equal
      obtain ⟨low, tails⟩ := escape_unit_append_inj (by omega) (by omega) others
      exact ⟨by omega, tails⟩
  exact ⟨Char.ext (UInt32.toNat_inj.mp codes.1), codes.2⟩

def shortMark (character : Char) : Option Char :=
  if character = doubleQuote ∨ character = backslash then some character
  else if character = '\n' then some 'n'
  else if character = '\r' then some 'r'
  else if character = '\t' then some 't'
  else if character.toNat = 8 then some 'b'
  else if character.toNat = 12 then some 'f'
  else none

def unmark (mark : Char) : Char :=
  if mark = 'n' then '\n'
  else if mark = 'r' then '\r'
  else if mark = 't' then '\t'
  else if mark = 'b' then Char.ofNat 8
  else if mark = 'f' then Char.ofNat 12
  else mark

theorem eq_of_code {character : Char} {code : Nat} (known : character.toNat = code) :
    character = Char.ofNat code := by
  rw [← known, Char.ofNat_toNat]

theorem short_mark_cases {character mark : Char} (short : shortMark character = some mark) :
    unmark mark = character ∧ mark ≠ 'u' := by
  unfold shortMark at short
  split at short
  · rename_i quoted
    cases short
    rcases quoted with rfl | rfl <;> exact ⟨by decide, by decide⟩
  · split at short
    · rename_i known
      cases short
      exact ⟨known.symm, by decide⟩
    · split at short
      · rename_i known
        cases short
        exact ⟨known.symm, by decide⟩
      · split at short
        · rename_i known
          cases short
          exact ⟨known.symm, by decide⟩
        · split at short
          · rename_i known
            cases short
            exact ⟨(eq_of_code known).symm, by decide⟩
          · split at short
            · rename_i known
              cases short
              exact ⟨(eq_of_code known).symm, by decide⟩
            · cases short

theorem escape_ascii_eq (character : Char) :
    escapeAscii character =
      match shortMark character with
      | some mark => [backslash, mark]
      | none =>
        if 32 ≤ character.toNat ∧ character.toNat < 127 then [character]
        else escapeUnits character.toNat := by
  unfold escapeAscii shortMark
  split_ifs <;> rfl

/-- An escape is a short one, a character that stands for itself and is neither a quote nor a
backslash, or units. -/
theorem escape_ascii_cases (character : Char) :
    (∃ mark, escapeAscii character = [backslash, mark] ∧ unmark mark = character ∧ mark ≠ 'u') ∨
      (escapeAscii character = [character] ∧ character ≠ doubleQuote ∧ character ≠ backslash) ∨
      escapeAscii character = escapeUnits character.toNat := by
  rw [escape_ascii_eq]
  cases short : shortMark character with
  | some mark => exact .inl ⟨mark, rfl, short_mark_cases short⟩
  | none =>
      by_cases plain : 32 ≤ character.toNat ∧ character.toNat < 127
      · refine .inr (.inl ⟨if_pos plain, ?_, ?_⟩)
        · rintro rfl
          cases short
        · rintro rfl
          cases short
      · exact .inr (.inr (if_neg plain))

theorem escape_unit_append (unit : Nat) (rest : List Char) :
    escapeUnit unit ++ rest = backslash :: 'u' :: (hex 4 unit ++ rest) := by
  simp only [escapeUnit, List.cons_append]

theorem escape_units_head (code : Nat) : ∃ rest, escapeUnits code = backslash :: 'u' :: rest := by
  by_cases small : code < 65536
  · have single : escapeUnits code = escapeUnit code := if_pos small
    exact ⟨hex 4 code, single⟩
  · have pair : escapeUnits code = _ := if_neg small
    rw [escape_unit_append] at pair
    exact ⟨_, pair⟩

theorem escape_ascii_append_inj {character other : Char} {rest remainder : List Char}
    (equal : escapeAscii character ++ rest = escapeAscii other ++ remainder) :
    character = other ∧ rest = remainder := by
  obtain ⟨units, unitsHead⟩ := escape_units_head character.toNat
  obtain ⟨otherUnits, otherHead⟩ := escape_units_head other.toNat
  rcases escape_ascii_cases character with ⟨mark, form, meant, marked⟩ | ⟨form, _, plain⟩ | form
  · rcases escape_ascii_cases other with ⟨otherMark, otherForm, otherMeant, _⟩ |
      ⟨otherForm, _, otherPlain⟩ | otherForm
    · rw [form, otherForm] at equal
      simp only [List.cons_append, List.nil_append, List.cons.injEq, true_and] at equal
      exact ⟨by rw [← meant, ← otherMeant, equal.1], equal.2⟩
    · rw [form, otherForm] at equal
      simp only [List.cons_append, List.nil_append, List.cons.injEq] at equal
      exact absurd equal.1.symm otherPlain
    · rw [form, otherForm, otherHead] at equal
      simp only [List.cons_append, List.nil_append, List.cons.injEq, true_and] at equal
      exact absurd equal.1 marked
  · rcases escape_ascii_cases other with ⟨otherMark, otherForm, _, _⟩ |
      ⟨otherForm, _, _⟩ | otherForm
    · rw [form, otherForm] at equal
      simp only [List.cons_append, List.nil_append, List.cons.injEq] at equal
      exact absurd equal.1 plain
    · rw [form, otherForm] at equal
      simp only [List.cons_append, List.nil_append, List.cons.injEq] at equal
      exact equal
    · rw [form, otherForm, otherHead] at equal
      simp only [List.cons_append, List.nil_append, List.cons.injEq] at equal
      exact absurd equal.1 plain
  · rcases escape_ascii_cases other with ⟨otherMark, otherForm, _, otherMarked⟩ |
      ⟨otherForm, _, otherPlain⟩ | otherForm
    · rw [form, otherForm, unitsHead] at equal
      simp only [List.cons_append, List.nil_append, List.cons.injEq, true_and] at equal
      exact absurd equal.1.symm otherMarked
    · rw [form, otherForm, unitsHead] at equal
      simp only [List.cons_append, List.nil_append, List.cons.injEq] at equal
      exact absurd equal.1.symm otherPlain
    · rw [form, otherForm] at equal
      exact escape_units_append_inj equal

theorem escape_ascii_is_no_quote (character : Char) (rest remainder : List Char) :
    escapeAscii character ++ rest ≠ doubleQuote :: remainder := by
  obtain ⟨units, unitsHead⟩ := escape_units_head character.toNat
  intro equal
  rcases escape_ascii_cases character with ⟨mark, form, _, _⟩ | ⟨form, unquoted, _⟩ | form
  · rw [form] at equal
    cases equal
  · rw [form] at equal
    simp only [List.cons_append, List.nil_append, List.cons.injEq] at equal
    exact unquoted equal.1
  · rw [form, unitsHead] at equal
    cases equal

theorem escaped_append_inj {content other rest remainder : List Char}
    (equal : content.flatMap escapeAscii ++ doubleQuote :: rest
      = other.flatMap escapeAscii ++ doubleQuote :: remainder) :
    content = other ∧ rest = remainder := by
  induction content generalizing other with
  | nil =>
      cases other with
      | nil => exact ⟨rfl, (List.cons.inj equal).2⟩
      | cons character others =>
          simp only [List.flatMap_cons, List.flatMap_nil, List.nil_append,
            List.append_assoc] at equal
          exact absurd equal.symm (escape_ascii_is_no_quote character _ _)
  | cons character more ih =>
      cases other with
      | nil =>
          simp only [List.flatMap_cons, List.flatMap_nil, List.nil_append,
            List.append_assoc] at equal
          exact absurd equal (escape_ascii_is_no_quote character _ _)
      | cons otherCharacter others =>
          simp only [List.flatMap_cons, List.append_assoc] at equal
          obtain ⟨rfl, tails⟩ := escape_ascii_append_inj equal
          obtain ⟨rfl, ended⟩ := ih tails
          exact ⟨rfl, ended⟩

theorem ascii_quoted_append_inj {content other : String} {rest remainder : List Char}
    (equal : (asciiQuoted content).toList ++ rest = (asciiQuoted other).toList ++ remainder) :
    content = other ∧ rest = remainder := by
  simp only [asciiQuoted, String.toList_ofList, List.cons_append,
    List.append_assoc, List.nil_append, List.cons.injEq, true_and] at equal
  obtain ⟨characters, tails⟩ := escaped_append_inj equal
  exact ⟨String.toList_inj.mp characters, tails⟩

end Text
end Interplay
