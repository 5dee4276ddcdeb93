import Interplay.Value.Entries

/-!
Values from JSON text.

Objects keep the order of their keys.  A number with a point or an exponent is floating-point, any
other one is whole and of any size.  Three words stand for floating-point numbers that have no
digits, and so does the object `{"$float": text}`, which may also hold digits; every such object for
a not-a-number is an occurrence of its own.
-/

namespace Interplay
namespace Json

def quote : Char := Char.ofNat 0x22
def backslash : Char := Char.ofNat 0x5C
def openBrace : Char := Char.ofNat 0x7B
def closeBrace : Char := Char.ofNat 0x7D

def isBlank (character : Char) : Bool :=
  [0x20, 0x09, 0x0A, 0x0D].contains character.toNat

def skipBlank (rest : List Char) : List Char :=
  rest.dropWhile isBlank

def hexDigit? (character : Char) : Option Nat :=
  if '0' ≤ character ∧ character ≤ '9' then some (character.toNat - 0x30)
  else if 'a' ≤ character ∧ character ≤ 'f' then some (character.toNat - 0x57)
  else if 'A' ≤ character ∧ character ≤ 'F' then some (character.toNat - 0x37)
  else none

def readHex (digits : List Char) : Nat :=
  digits.foldl (fun total digit => total * 16 + (hexDigit? digit).getD 0) 0

def escaped : Char → Char
  | 'n' => Char.ofNat 0x0A
  | 't' => Char.ofNat 0x09
  | 'r' => Char.ofNat 0x0D
  | 'b' => Char.ofNat 0x08
  | 'f' => Char.ofNat 0x0C
  | other => other

def ofSurrogates (high low : Nat) : Char :=
  Char.ofNat (0x10000 + (high - 0xD800) * 0x400 + (low - 0xDC00))

/-- Reads up to the closing quote.  `high` is a first surrogate that waits for its second, or zero;
the characters read so far come last first. -/
def readText (high : Nat) (found : List Char) : List Char → Option (String × List Char)
  | [] => none
  | character :: rest =>
    if character = quote then some (String.ofList found.reverse, rest)
    else if character = backslash then
      match rest with
      | 'u' :: first :: second :: third :: fourth :: more =>
        let unit := readHex [first, second, third, fourth]
        if 0xD800 ≤ unit ∧ unit < 0xDC00 then readText unit found more
        else if 0xDC00 ≤ unit ∧ unit < 0xE000 then readText 0 (ofSurrogates high unit :: found) more
        else readText 0 (Char.ofNat unit :: found) more
      | other :: more => readText 0 (escaped other :: found) more
      | [] => none
    else readText 0 (character :: found) rest

def isExponentMark (character : Char) : Bool :=
  character == 'e' || character == 'E'

def isNumberPart (character : Char) : Bool :=
  character.isDigit || character == '-' || character == '+' || character == '.' ||
    isExponentMark character

def readDigits (digits : List Char) : Nat :=
  (digits.filter Char.isDigit).foldl (fun total digit => total * 10 + (digit.toNat - 0x30)) 0

def readFloat (negative : Bool) (token : List Char) : Float :=
  let mantissa := token.takeWhile fun character => !isExponentMark character
  let tail := (token.dropWhile fun character => !isExponentMark character).drop 1
  let fraction := (mantissa.dropWhile fun character => character != '.').drop 1
  let written := Int.ofNat (readDigits tail)
  let exponent := (if tail.head? = some '-' then -written else written) - Int.ofNat fraction.length
  let magnitude := Float.ofScientific (readDigits mantissa) (decide (exponent < 0)) exponent.natAbs
  if negative then -magnitude else magnitude

def readNumber (token : List Char) : Value :=
  let negative := token.head? == some '-'
  if token.any fun character => character == '.' || isExponentMark character then
    .float (readFloat negative token)
  else
    .int (if negative then -(Int.ofNat (readDigits token)) else Int.ofNat (readDigits token))

/-- What is left to read, and the number of the next not-a-number. -/
structure Feed where
  rest : List Char
  occurrence : Nat

def wordOccurrence : Nat := 0

def ofUndefined (feed : Feed) : Value × Feed :=
  (.scalar (.nan feed.occurrence), { feed with occurrence := feed.occurrence + 1 })

def ofFloatText (content : String) (feed : Feed) : Option (Value × Feed) :=
  let characters := content.toList
  let negative := characters.head? == some '-'
  let token := characters.dropWhile fun character => character == '-' || character == '+'
  match (String.ofList token).toLower with
  | "nan" => some (ofUndefined feed)
  | "inf" => some (.float (if negative then -1.0 / 0.0 else 1.0 / 0.0), feed)
  | "infinity" => some (.float (if negative then -1.0 / 0.0 else 1.0 / 0.0), feed)
  | _ =>
    if token.any Char.isDigit && token.all isNumberPart then
      some (.float (readFloat negative token), feed)
    else none

def ofEntries (entries : Entries) (feed : Feed) : Value × Feed :=
  match entries with
  | [(.text "$float", .text content)] => (ofFloatText content feed).getD (.mapping entries, feed)
  | other => (.mapping other, feed)

def Feed.past (separator : Char) (feed : Feed) : Option Feed :=
  match skipBlank feed.rest with
  | [] => none
  | character :: rest => if character = separator then some { feed with rest := rest } else none

mutual

def readValue : Nat → Feed → Option (Value × Feed)
  | 0, _ => none
  | fuel + 1, feed =>
    match skipBlank feed.rest with
    | [] => none
    | 't' :: rest => some (.bool true, { feed with rest := rest.drop 3 })
    | 'f' :: rest => some (.bool false, { feed with rest := rest.drop 4 })
    | 'n' :: rest => some (.null, { feed with rest := rest.drop 3 })
    | 'N' :: rest => some (.scalar (.nan wordOccurrence), { feed with rest := rest.drop 2 })
    | 'I' :: rest => some (.float (1.0 / 0.0), { feed with rest := rest.drop 7 })
    | '-' :: 'I' :: rest => some (.float (-1.0 / 0.0), { feed with rest := rest.drop 7 })
    | '[' :: rest =>
      match (Feed.mk rest feed.occurrence).past ']' with
      | some after => some (.list [], after)
      | none => readItems fuel [] { feed with rest := rest }
    | character :: rest =>
      if character = quote then do
        let (content, after) ← readText 0 [] rest
        return (.text content, { feed with rest := after })
      else if character = openBrace then
        match (Feed.mk rest feed.occurrence).past closeBrace with
        | some after => some (.mapping [], after)
        | none => readEntries fuel [] { feed with rest := rest }
      else
        let token := (character :: rest).takeWhile isNumberPart
        if token.isEmpty then none
        else some (readNumber token, { feed with rest := (character :: rest).drop token.length })

/-- The rest of a list; the items read so far come last first. -/
def readItems : Nat → List Value → Feed → Option (Value × Feed)
  | 0, _, _ => none
  | fuel + 1, found, feed => do
    let (item, after) ← readValue fuel feed
    match after.past ',' with
    | some next => readItems fuel (item :: found) next
    | none =>
      let last ← after.past ']'
      return (.list (item :: found).reverse, last)

def readEntries : Nat → Entries → Feed → Option (Value × Feed)
  | 0, _, _ => none
  | fuel + 1, found, feed => do
    let start ← feed.past quote
    let (key, rest) ← readText 0 [] start.rest
    let inner ← (Feed.mk rest feed.occurrence).past ':'
    let (content, after) ← readValue fuel inner
    let entries := Keyed.insert (.text key) content found
    match after.past ',' with
    | some next => readEntries fuel entries next
    | none =>
      let last ← after.past closeBrace
      return ofEntries entries last

end

/-- The value that a text begins with, and the first occurrence of a not-a-number that it leaves
free. -/
def read (source : String) : Option (Value × Nat) :=
  let characters := source.toList
  (readValue (characters.length + 1) { rest := characters, occurrence := wordOccurrence + 1 }).map
    fun outcome => (outcome.1, outcome.2.occurrence)

end Json
end Interplay
