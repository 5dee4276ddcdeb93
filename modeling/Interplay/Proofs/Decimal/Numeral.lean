import Interplay.Number
import Interplay.Proofs.Decimal.Rounding

/-!
Texts of numbers can be read back.

A finite number is written as a numeral: digits, then a point and digits, or an exponent, or both.
A numeral says which real it stands for, so the text of a number tells its owner.  It is never the
text of a whole number, which has digits only.
-/

namespace Interplay
namespace Decimal

/-- Digits before and behind the point, and an exponent with its sign. -/
structure Numeral where
  whole : List Char
  fraction : List Char
  exponent : Option (Char × List Char)

namespace Numeral

def fractionText (digits : List Char) : List Char :=
  if digits = [] then [] else '.' :: digits

def exponentText : Option (Char × List Char) → List Char
  | none => []
  | some (sign, digits) => 'e' :: sign :: digits

def text (numeral : Numeral) : List Char :=
  numeral.whole ++ fractionText numeral.fraction ++ exponentText numeral.exponent

def power : Option (Char × List Char) → Int
  | none => 0
  | some (sign, digits) =>
    if sign = '-' then -(Nat.ofDigitChars 10 digits 0 : Int) else Nat.ofDigitChars 10 digits 0

/-- The real that a numeral stands for. -/
def value (numeral : Numeral) : ℚ :=
  Nat.ofDigitChars 10 (numeral.whole ++ numeral.fraction) 0
    * 10 ^ (power numeral.exponent - numeral.fraction.length)

/-- Digits where digits should be, at least one in front, and something that no whole number has. -/
structure WellFormed (numeral : Numeral) : Prop where
  whole : ∀ digit ∈ numeral.whole, digit.isDigit = true
  fraction : ∀ digit ∈ numeral.fraction, digit.isDigit = true
  starts : numeral.whole ≠ []
  sign : ∀ sign digits, numeral.exponent = some (sign, digits) → sign = '-' ∨ sign = '+'
  digits : ∀ sign digits, numeral.exponent = some (sign, digits) →
    ∀ digit ∈ digits, digit.isDigit = true
  marked : numeral.fraction ≠ [] ∨ numeral.exponent ≠ none

def ofText (text : List Char) : Numeral :=
  let mantissa := text.takeWhile fun character => decide (character ≠ 'e')
  { whole := mantissa.takeWhile fun character => decide (character ≠ '.')
    fraction := (mantissa.dropWhile fun character => decide (character ≠ '.')).drop 1
    exponent := match text.dropWhile fun character => decide (character ≠ 'e') with
      | _ :: sign :: digits => some (sign, digits)
      | _ => none }

theorem digit_ne {digit other : Char} (isDigit : digit.isDigit = true)
    (noDigit : other.isDigit = false) :
    digit ≠ other := by
  rintro rfl
  rw [isDigit] at noDigit
  cases noDigit

theorem take_while_append_of_absent {front : List Char} {mark : Char}
    (absent : ∀ digit ∈ front, digit ≠ mark)
    (rest : List Char) (ended : rest = [] ∨ ∃ more, rest = mark :: more) :
    (front ++ rest).takeWhile (fun character => decide (character ≠ mark)) = front ∧
      (front ++ rest).dropWhile (fun character => decide (character ≠ mark)) = rest := by
  have passes : ∀ digit ∈ front, decide (digit ≠ mark) = true := fun digit member => by
    simpa using absent digit member
  rw [List.takeWhile_append_of_pos passes, List.dropWhile_append_of_pos passes]
  rcases ended with rfl | ⟨more, rfl⟩
  · simp
  · simp

theorem mem_fraction_text {fraction : List Char} {character : Char}
    (member : character ∈ fractionText fraction) :
    character = '.' ∨ character ∈ fraction := by
  unfold fractionText at member
  split at member
  · cases member
  · exact List.mem_cons.mp member

theorem of_text_text {numeral : Numeral} (formed : numeral.WellFormed) :
    ofText numeral.text = numeral := by
  have noPoint : ∀ digit ∈ numeral.whole, digit ≠ '.' :=
    fun digit member => digit_ne (formed.whole digit member) rfl
  have noMark : ∀ character ∈ numeral.whole ++ fractionText numeral.fraction, character ≠ 'e' := by
    intro character member
    rcases List.mem_append.mp member with inWhole | inFraction
    · exact digit_ne (formed.whole character inWhole) rfl
    · rcases mem_fraction_text inFraction with rfl | inside
      · decide
      · exact digit_ne (formed.fraction character inside) rfl
  have marks := take_while_append_of_absent noMark (exponentText numeral.exponent) (by
    cases numeral.exponent <;> simp [exponentText])
  have points := take_while_append_of_absent noPoint (fractionText numeral.fraction) (by
    unfold fractionText
    split <;> simp)
  unfold ofText text
  dsimp only
  rw [marks.1, marks.2, points.1, points.2]
  obtain ⟨whole, fraction, exponent⟩ := numeral
  congr 1
  · unfold fractionText
    split <;> simp_all
  · cases exponent <;> rfl

theorem text_injective {numeral other : Numeral} (formed : numeral.WellFormed)
    (otherFormed : other.WellFormed) (equal : numeral.text = other.text) : numeral = other := by
  rw [← of_text_text formed, ← of_text_text otherFormed, equal]

/-- The text of a numeral has digits, points, signs and exponent marks only, and begins with a
digit. -/
theorem text_characters {numeral : Numeral} (formed : numeral.WellFormed) :
    ∀ character ∈ numeral.text, character.isDigit = true ∨ character ∈ ['.', 'e', '+', '-'] := by
  intro character member
  rcases List.mem_append.mp member with mantissa | mark
  · rcases List.mem_append.mp mantissa with inWhole | inFraction
    · exact .inl (formed.whole character inWhole)
    · rcases mem_fraction_text inFraction with rfl | inside
      · exact .inr (by decide)
      · exact .inl (formed.fraction character inside)
  · cases known : numeral.exponent with
    | none =>
        rw [known] at mark
        cases mark
    | some parts =>
        obtain ⟨sign, digits⟩ := parts
        rw [known] at mark
        simp only [exponentText, List.mem_cons] at mark
        rcases mark with rfl | rfl | inside
        · exact .inr (by decide)
        · rcases formed.sign _ digits known with rfl | rfl <;> exact .inr (by decide)
        · exact .inl (formed.digits sign digits known character inside)

theorem text_marked {numeral : Numeral} (formed : numeral.WellFormed) :
    '.' ∈ numeral.text ∨ 'e' ∈ numeral.text := by
  unfold text
  rcases formed.marked with present | present
  · left
    simp [fractionText, present]
  · right
    cases known : numeral.exponent with
    | none => exact absurd known present
    | some parts => simp [exponentText]

theorem text_head {numeral : Numeral} (formed : numeral.WellFormed) :
    ∃ digit rest, numeral.text = digit :: rest ∧ digit.isDigit = true := by
  obtain ⟨whole, fraction, exponent⟩ := numeral
  cases whole with
  | nil => exact absurd rfl formed.starts
  | cons digit rest => exact ⟨digit, _, rfl, formed.whole digit List.mem_cons_self⟩

end Numeral

theorem to_list_zeros (count : Nat) : (zeros count).toList = List.replicate count '0' := by
  simp [zeros]

theorem is_digit_of_mem_digits {number : Nat} {digit : Char}
    (member : digit ∈ Nat.toDigits 10 number) :
    digit.isDigit = true :=
  Nat.isDigit_of_mem_toDigits (by decide) (by decide) member

theorem is_digit_of_mem_replicate {count : Nat} {digit : Char}
    (member : digit ∈ List.replicate count '0') :
    digit.isDigit = true := by
  rw [List.eq_of_mem_replicate member]
  rfl

def exponentParts (exponent : Int) : Char × List Char :=
  (if exponent < 0 then '-' else '+',
   List.replicate (layout.exponentWidth - (Nat.toDigits 10 exponent.natAbs).length) '0'
    ++ Nat.toDigits 10 exponent.natAbs)

theorem to_list_exponent_text (exponent : Int) :
    (layout.exponentText exponent).toList = Numeral.exponentText
    (some (exponentParts exponent)) := by
  unfold Layout.exponentText exponentParts
  simp only [String.toList_append, to_list_zeros,
    Nat.toString_eq_ofList_toDigits, String.toList_ofList,
    Numeral.exponentText, String.length_ofList]
  split <;> rfl

theorem power_exponent_parts (exponent : Int) :
    Numeral.power (some (exponentParts exponent)) = exponent := by
  have read : Nat.ofDigitChars 10 (exponentParts exponent).2 0 = exponent.natAbs := by
    simp only [exponentParts, Nat.ofDigitChars_append,
      Nat.ofDigitChars_replicate_zero, Nat.mul_zero, Nat.ofDigitChars_ten_toDigits]
  by_cases negative : exponent < 0
  · have sign : (exponentParts exponent).1 = '-' := if_pos negative
    simp only [Numeral.power, read, sign, if_true]
    omega
  · have sign : (exponentParts exponent).1 = '+' := if_neg negative
    simp only [Numeral.power, read, sign]
    rw [if_neg (by decide)]
    omega

theorem Numeral.well_formed_of_fraction {whole fraction : List Char}
    (wholeDigits : ∀ digit ∈ whole, digit.isDigit = true)
    (digits : ∀ digit ∈ fraction, digit.isDigit = true)
    (starts : whole ≠ []) (present : fraction ≠ []) : Numeral.WellFormed ⟨whole, fraction, none⟩ :=
  ⟨wholeDigits, digits, starts, nofun, nofun, .inl present⟩

/-- Characters that spell a number in decimal digits. -/
structure Spells (characters : List Char) (number : Nat) : Prop where
  digits : ∀ digit ∈ characters, digit.isDigit = true
  some : 0 < characters.length
  read : Nat.ofDigitChars 10 characters 0 = number

theorem to_digits_spells (number : Nat) : Spells (Nat.toDigits 10 number) number :=
  ⟨fun _ member => is_digit_of_mem_digits member, Nat.length_toDigits_pos,
    Nat.ofDigitChars_ten_toDigits⟩

section Layouts

variable {characters : List Char} {number : Nat} {scale : Int}

/-- A number below one: zeros stand between the point and its digits. -/
theorem below_one_is_numeral (spells : Spells characters number) {padding : Nat}
    (places : (padding : Int) + characters.length = -scale) :
    Numeral.WellFormed ⟨['0'], List.replicate padding '0' ++ characters, none⟩ ∧
      Numeral.value ⟨['0'], List.replicate padding '0' ++ characters, none⟩ =
      number * 10 ^ scale := by
  constructor
  · apply Numeral.well_formed_of_fraction
    · intro digit member
      rw [List.mem_singleton.mp member]
      rfl
    · intro digit member
      rcases List.mem_append.mp member with padded | inside
      · exact is_digit_of_mem_replicate padded
      · exact spells.digits digit inside
    · simp
    · simp [List.ne_nil_of_length_pos spells.some]
  · have zero : Nat.ofDigitChars 10 (['0'] ++ (List.replicate padding '0' ++ characters)) 0 =
        number := by
      rw [Nat.ofDigitChars_append, Nat.ofDigitChars_append,
        Nat.ofDigitChars_cons, Nat.ofDigitChars_nil,
        Nat.ofDigitChars_replicate_zero, show 10 * 0 + ('0'.toNat - '0'.toNat) =
        0 from rfl, Nat.mul_zero, spells.read]
    simp only [Numeral.value, Numeral.power, zero, List.length_append, List.length_replicate]
    congr 2
    push_cast
    omega

theorem filled_up_is_numeral (spells : Spells characters number) {padding : Nat}
    (places : (padding : Int) = scale) :
    Numeral.WellFormed ⟨characters ++ List.replicate padding '0', ['0'], none⟩ ∧
      Numeral.value ⟨characters ++ List.replicate padding '0', ['0'], none⟩ =
      number * 10 ^ scale := by
  constructor
  · apply Numeral.well_formed_of_fraction
    · intro digit member
      rcases List.mem_append.mp member with inside | padded
      · exact spells.digits digit inside
      · exact is_digit_of_mem_replicate padded
    · intro digit member
      rw [List.mem_singleton.mp member]
      rfl
    · simp [List.ne_nil_of_length_pos spells.some]
    · simp
  · have shifted : Nat.ofDigitChars 10 (characters ++ List.replicate padding '0' ++ ['0']) 0
        = 10 * (10 ^ padding * number) := by
      rw [Nat.ofDigitChars_append, Nat.ofDigitChars_append, spells.read,
        Nat.ofDigitChars_replicate_zero, Nat.ofDigitChars_cons, Nat.ofDigitChars_nil]
      rfl
    simp only [Numeral.value, Numeral.power, shifted, List.length_singleton]
    rw [← places, zpow_natCast]
    push_cast
    rw [zpow_neg_one]
    ring

theorem split_is_numeral (spells : Spells characters number) {whole : Nat} (starts : 0 < whole)
    (inside : whole < characters.length) (places : (characters.length : Int) - whole = -scale) :
    Numeral.WellFormed ⟨characters.take whole, characters.drop whole, none⟩ ∧
      Numeral.value ⟨characters.take whole, characters.drop whole, none⟩ = number * 10 ^ scale := by
  constructor
  · apply Numeral.well_formed_of_fraction
    · exact fun digit member => spells.digits digit (List.mem_of_mem_take member)
    · exact fun digit member => spells.digits digit (List.mem_of_mem_drop member)
    · apply List.ne_nil_of_length_pos
      rw [List.length_take]
      omega
    · apply List.ne_nil_of_length_pos
      rw [List.length_drop]
      omega
  · simp only [Numeral.value, Numeral.power, List.take_append_drop, spells.read, List.length_drop]
    congr 2
    rw [Nat.cast_sub inside.le]
    omega

/-- A number with an exponent: one digit stands before the point, which is left out if none stands
behind it. -/
theorem marked_is_numeral (spells : Spells characters number) {exponent : Int}
    (places : exponent - (characters.length - 1) = scale) :
    Numeral.WellFormed ⟨characters.take 1, characters.drop 1, some (exponentParts exponent)⟩ ∧
      Numeral.value ⟨characters.take 1, characters.drop 1, some (exponentParts exponent)⟩ =
      number * 10 ^ scale := by
  have some := spells.some
  constructor
  · refine ⟨?_, ?_, ?_, ?_, ?_, .inr (by simp)⟩
    · exact fun digit member => spells.digits digit (List.mem_of_mem_take member)
    · exact fun digit member => spells.digits digit (List.mem_of_mem_drop member)
    · apply List.ne_nil_of_length_pos
      rw [List.length_take]
      omega
    · intro sign parts known
      cases known
      split
      · exact .inl rfl
      · exact .inr rfl
    · intro sign parts known digit member
      cases known
      rcases List.mem_append.mp member with padded | written
      · exact is_digit_of_mem_replicate padded
      · exact is_digit_of_mem_digits written
  · simp only [Numeral.value, power_exponent_parts, List.take_append_drop,
      spells.read, List.length_drop]
    congr 2
    rw [Nat.cast_sub some]
    push_cast
    omega

end Layouts

/-- Every way of writing digits gives a numeral that stands for what the digits stand for. -/
theorem write_is_numeral (result : Digits) :
    ∃ numeral : Numeral, numeral.WellFormed ∧ (layout.write result).toList = numeral.text ∧
      numeral.value = result.toRat := by
  have spells := to_digits_spells result.digits
  unfold Layout.write Digits.toRat
  dsimp only
  generalize Nat.toDigits 10 result.digits = characters at spells
  have nonempty := List.ne_nil_of_length_pos spells.some
  generalize exponentIs : result.scale + Int.ofNat characters.length - 1 = exponent
  simp only [Int.ofNat_eq_natCast] at exponentIs ⊢
  split
  · split
    · obtain ⟨formed, value⟩ := below_one_is_numeral spells
        (show ((-exponent - 1).toNat : Int) + characters.length = -result.scale by omega)
      refine ⟨_, formed, ?_, value⟩
      simp [Numeral.text, Numeral.fractionText, Numeral.exponentText, to_list_zeros, nonempty]
    · split
      · obtain ⟨formed, value⟩ := filled_up_is_numeral spells
          (show ((exponent + 1 - characters.length).toNat : Int) = result.scale by omega)
        refine ⟨_, formed, ?_, value⟩
        simp [Numeral.text, Numeral.fractionText, Numeral.exponentText, to_list_zeros]
      · obtain ⟨formed, value⟩ := split_is_numeral spells (show 0 < (exponent + 1).toNat by omega)
          (show (exponent + 1).toNat < characters.length by omega)
          (show (characters.length : Int) - (exponent + 1).toNat = -result.scale by omega)
        have present : characters.drop (exponent + 1).toNat ≠ [] := by
          apply List.ne_nil_of_length_pos
          rw [List.length_drop]
          omega
        refine ⟨_, formed, ?_, value⟩
        simp [Numeral.text, Numeral.fractionText, Numeral.exponentText, present]
  · obtain ⟨formed, value⟩ := marked_is_numeral spells
      (show exponent - (characters.length - 1) = result.scale by omega)
    refine ⟨_, formed, ?_, value⟩
    simp only [Numeral.text, Numeral.fractionText, String.toList_append,
      String.toList_ofList, to_list_exponent_text]
    cases characters.drop 1 <;> simp

def magnitudeText (significand : Nat) (exponent : Int) : String :=
  if significand = 0 then "0.0" else layout.write (shortest significand exponent)

def finiteText (negative : Bool) (significand : Nat) (exponent : Int) : String :=
  (if negative then "-" else "") ++ magnitudeText significand exponent

theorem text_of_finite {number : Float} {negative : Bool} {significand : Nat} {exponent : Int}
    (finite : Decimal.read number = .finite negative significand exponent) :
    Decimal.text number = finiteText negative significand exponent := by
  unfold Decimal.text
  rw [finite]
  rfl

/-- The text of a number without its sign is a numeral for a real that the number owns. -/
theorem magnitude_is_numeral {significand : Nat} {exponent : Int}
    (double : IsDouble significand exponent) :
    ∃ numeral : Numeral, numeral.WellFormed ∧
    (magnitudeText significand exponent).toList = numeral.text ∧
      (significand = 0 ∧ numeral.value = 0 ∨ 0 < significand ∧
        Owns significand exponent numeral.value) := by
  unfold magnitudeText
  by_cases zero : significand = 0
  · rw [if_pos zero]
    refine ⟨⟨['0'], ['0'], none⟩, ?_, rfl, .inl ⟨zero, ?_⟩⟩
    · apply Numeral.well_formed_of_fraction <;> simp
    · have digits : Nat.ofDigitChars 10 (['0'] ++ ['0']) 0 = 0 := rfl
      simp only [Numeral.value, digits, Nat.cast_zero, zero_mul]
  · rw [if_neg zero]
    obtain ⟨numeral, formed, written, value⟩ := write_is_numeral (shortest significand exponent)
    refine ⟨numeral, formed, written, .inr ⟨Nat.pos_of_ne_zero zero, ?_⟩⟩
    rw [value]
    exact owns_shortest (Nat.pos_of_ne_zero zero) double

theorem magnitude_text_injective {significand other : Nat} {exponent otherExponent : Int}
    (double : IsDouble significand exponent) (otherDouble : IsDouble other otherExponent)
    (equal : magnitudeText significand exponent = magnitudeText other otherExponent) :
    significand = other ∧ exponent = otherExponent := by
  obtain ⟨numeral, formed, written, owner⟩ := magnitude_is_numeral double
  obtain ⟨otherNumeral, otherFormed, otherWritten, otherOwner⟩ := magnitude_is_numeral otherDouble
  have same : numeral = otherNumeral := by
    apply Numeral.text_injective formed otherFormed
    rw [← written, ← otherWritten, equal]
  subst same
  rcases owner with ⟨zero, nothing⟩ | ⟨positive, owned⟩
  · rcases otherOwner with ⟨otherZero, _⟩ | ⟨otherPositive, otherOwned⟩
    · have low := double.least
      have otherLow := otherDouble.least
      have full := double.full
      have otherFull := otherDouble.full
      exact ⟨by omega, by omega⟩
    · exact absurd nothing (positive_of_owns otherPositive otherOwned).ne'
  · rcases otherOwner with ⟨_, nothing⟩ | ⟨_, otherOwned⟩
    · exact absurd nothing (positive_of_owns positive owned).ne'
    · exact owner_unique double otherDouble owned otherOwned

theorem magnitude_text_head {significand : Nat} {exponent : Int}
    (double : IsDouble significand exponent) :
    ∃ digit rest, (magnitudeText significand exponent).toList = digit :: rest ∧
    digit.isDigit = true := by
  obtain ⟨numeral, formed, written, _⟩ := magnitude_is_numeral double
  rw [written]
  exact Numeral.text_head formed

theorem finite_text_injective {negative otherNegative : Bool} {significand other : Nat}
    {exponent otherExponent : Int} (double : IsDouble significand exponent)
    (otherDouble : IsDouble other otherExponent)
    (equal : finiteText negative significand exponent =
      finiteText otherNegative other otherExponent) :
    negative = otherNegative ∧ significand = other ∧ exponent = otherExponent := by
  obtain ⟨digit, rest, head, isDigit⟩ := magnitude_text_head double
  obtain ⟨otherDigit, otherRest, otherHead, isOtherDigit⟩ := magnitude_text_head otherDouble
  have characters := congrArg String.toList equal
  simp only [finiteText, String.toList_append] at characters
  have unsigned : digit ≠ '-' := Numeral.digit_ne isDigit rfl
  have otherUnsigned : otherDigit ≠ '-' := Numeral.digit_ne isOtherDigit rfl
  cases negative <;> cases otherNegative
  · exact ⟨rfl, magnitude_text_injective double otherDouble
      (String.toList_inj.mp (by simpa using characters))⟩
  · simp [head, otherHead] at characters
    exact absurd characters.1 unsigned
  · simp [head, otherHead] at characters
    exact absurd characters.1.symm otherUnsigned
  · exact ⟨rfl, magnitude_text_injective double otherDouble
      (String.toList_inj.mp (by simpa using characters))⟩

theorem finite_text_characters {negative : Bool} {significand : Nat} {exponent : Int}
    (double : IsDouble significand exponent) :
    ∀ character ∈ (finiteText negative significand exponent).toList,
      character.isDigit = true ∨ character ∈ ['.', 'e', '+', '-'] := by
  obtain ⟨numeral, formed, written, _⟩ := magnitude_is_numeral double
  intro character member
  simp only [finiteText, String.toList_append, written] at member
  rcases List.mem_append.mp member with sign | inside
  · cases negative with
    | true =>
        right
        simp_all
    | false => simp at sign
  · exact Numeral.text_characters formed character inside

theorem finite_text_marked {negative : Bool} {significand : Nat} {exponent : Int}
    (double : IsDouble significand exponent) :
    '.' ∈ (finiteText negative significand exponent).toList ∨
      'e' ∈ (finiteText negative significand exponent).toList := by
  obtain ⟨numeral, formed, written, _⟩ := magnitude_is_numeral double
  simp only [finiteText, String.toList_append, written, List.mem_append]
  rcases Numeral.text_marked formed with point | mark
  · exact .inl (.inr point)
  · exact .inr (.inr mark)

theorem to_list_of_nat (natural : Nat) : (toString (Int.ofNat natural)).toList =
    Nat.toDigits 10 natural :=
  Nat.toList_repr

theorem to_list_neg_succ (natural : Nat) :
    (toString (Int.negSucc natural)).toList = '-' :: Nat.toDigits 10 (natural + 1) := by
  rw [show toString (Int.negSucc natural) = "-" ++ (natural + 1).repr from rfl,
    String.toList_append, Nat.toList_repr]
  rfl

theorem whole_text_characters (number : Int) :
    ∀ character ∈ (toString number).toList, character.isDigit = true ∨ character = '-' := by
  intro character member
  cases number with
  | ofNat natural =>
      rw [to_list_of_nat] at member
      exact .inl (is_digit_of_mem_digits member)
  | negSucc natural =>
      rw [to_list_neg_succ] at member
      rcases List.mem_cons.mp member with sign | inside
      · exact .inr sign
      · exact .inl (is_digit_of_mem_digits inside)

theorem to_digits_injective {number other : Nat}
    (equal : Nat.toDigits 10 number = Nat.toDigits 10 other) :
    number = other := by
  rw [← (to_digits_spells number).read, ← (to_digits_spells other).read, equal]

theorem whole_text_injective {number other : Int} (equal : toString number = toString other) :
    number = other := by
  have characters := congrArg String.toList equal
  have unsigned : ∀ natural rest, Nat.toDigits 10 natural ≠ '-' :: rest := by
    intro natural rest digits
    have isDigit : '-'.isDigit = true :=
      is_digit_of_mem_digits (by rw [digits]; exact List.mem_cons_self)
    cases isDigit
  cases number with
  | ofNat natural =>
      cases other with
      | ofNat otherNatural =>
          rw [to_list_of_nat, to_list_of_nat] at characters
          rw [to_digits_injective characters]
      | negSucc otherNatural =>
          rw [to_list_of_nat, to_list_neg_succ] at characters
          exact absurd characters (unsigned _ _)
  | negSucc natural =>
      cases other with
      | ofNat otherNatural =>
          rw [to_list_of_nat, to_list_neg_succ] at characters
          exact absurd characters.symm (unsigned _ _)
      | negSucc otherNatural =>
          rw [to_list_neg_succ, to_list_neg_succ] at characters
          have successors := to_digits_injective (List.cons.inj characters).2
          rw [Nat.succ.inj successors]

end Decimal
end Interplay
