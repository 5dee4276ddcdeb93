import Interplay.Text.Printable

/-!
Two quoted forms of text.

In messages a text stands in single quotes, or in double quotes if it has a single quote and no
double quote, and only what cannot be shown is escaped.  In fingerprints it stands in double quotes
and everything beyond ASCII is escaped by its UTF-16 units.
-/

namespace Interplay
namespace Text

def singleQuote : Char := Char.ofNat 39
def doubleQuote : Char := Char.ofNat 34
def backslash : Char := Char.ofNat 92

/-- Lower-case hexadecimal digits, padded with zeros to a width. -/
def hex (width number : Nat) : List Char :=
  let digits := Nat.toDigits 16 number
  List.replicate (width - digits.length) '0' ++ digits

def escapeCode (code : Nat) : List Char :=
  if code < 256 then backslash :: 'x' :: hex 2 code
  else if code < 65536 then backslash :: 'u' :: hex 4 code
  else backslash :: 'U' :: hex 8 code

def escapeFor (quote character : Char) : List Char :=
  if character = quote ∨ character = backslash then [backslash, character]
  else if character = '\n' then [backslash, 'n']
  else if character = '\r' then [backslash, 'r']
  else if character = '\t' then [backslash, 't']
  else if isPrintable character then [character]
  else escapeCode character.toNat

def quoteOf (characters : List Char) : Char :=
  if characters.contains singleQuote && !characters.contains doubleQuote then
    doubleQuote else singleQuote

def quoted (content : String) : String :=
  let characters := content.toList
  let quote := quoteOf characters
  String.ofList (quote :: characters.flatMap (escapeFor quote) ++ [quote])

def escapeUnit (unit : Nat) : List Char :=
  backslash :: 'u' :: hex 4 unit

/-- One unit, or the surrogate pair of a code point beyond the basic plane. -/
def escapeUnits (code : Nat) : List Char :=
  if code < 65536 then escapeUnit code
  else escapeUnit (0xD800 + (code - 65536) / 1024) ++ escapeUnit (0xDC00 + (code - 65536) % 1024)

def escapeAscii (character : Char) : List Char :=
  if character = doubleQuote ∨ character = backslash then [backslash, character]
  else if character = '\n' then [backslash, 'n']
  else if character = '\r' then [backslash, 'r']
  else if character = '\t' then [backslash, 't']
  else if character.toNat = 8 then [backslash, 'b']
  else if character.toNat = 12 then [backslash, 'f']
  else if 32 ≤ character.toNat ∧ character.toNat < 127 then [character]
  else escapeUnits character.toNat

def asciiQuoted (content : String) : String :=
  String.ofList (doubleQuote :: content.toList.flatMap escapeAscii ++ [doubleQuote])

end Text
end Interplay
