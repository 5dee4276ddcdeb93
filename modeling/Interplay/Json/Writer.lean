import Interplay.Document

/-!
JSON text of values and documents.

What JSON has no form for is written as an object with one marked key: a floating-point number by
its shortest text, a closure by its tag, and a mapping with keys that are no texts as a list of
pairs.  A bare value has no marks on numbers and keys.
-/

namespace Interplay
namespace Json

def hexDigits (number : Nat) : String :=
  let digits := Nat.toDigits 16 number
  String.ofList (List.replicate (4 - digits.length) '0' ++ digits)

def writeCharacter (character : Char) : String :=
  if character.toNat = 0x22 then "\\\""
  else if character.toNat = 0x5C then "\\\\"
  else if character.toNat < 0x20 then "\\u" ++ hexDigits character.toNat
  else String.singleton character

def writeText (content : String) : String :=
  content.foldl (fun written character => written ++ writeCharacter character) "\"" ++ "\""

def writeMarked (mark content : String) : String :=
  "\x7b" ++ writeText mark ++ ":" ++ content ++ "\x7d"

def writeScalar : Scalar → String
  | .null => "null"
  | .bool flag => if flag then "true" else "false"
  | .int number => toString number
  | .float number => writeMarked "$float" (writeText (Decimal.text number))
  | .nan _ => writeMarked "$float" (writeText "nan")
  | .text content => writeText content
  | .closure _ tag => writeMarked "$closure" (writeText tag)

def hasTextKeys (entries : Entries) : Bool :=
  entries.all fun entry => entry.1.isText

mutual

def write : Value → String
  | .scalar content => writeScalar content
  | .list items => "[" ++ writeItems items ++ "]"
  | .mapping entries =>
    if hasTextKeys entries then "\x7b" ++ writeFields entries ++ "\x7d"
    else writeMarked "$map" ("[" ++ writePairs entries ++ "]")

def writeItems : List Value → String
  | [] => ""
  | [item] => write item
  | item :: rest => write item ++ "," ++ writeItems rest

def writeFields : List (Scalar × Value) → String
  | [] => ""
  | [(key, content)] => writeText key.display ++ ":" ++ write content
  | (key, content) :: rest =>
    writeText key.display ++ ":" ++ write content ++ "," ++ writeFields rest

def writePairs : List (Scalar × Value) → String
  | [] => ""
  | [(key, content)] => "[" ++ writeScalar key ++ "," ++ write content ++ "]"
  | (key, content) :: rest =>
    "[" ++ writeScalar key ++ "," ++ write content ++ "]," ++ writePairs rest

end

def writeBareScalar : Scalar → String
  | .text content => writeText content
  | .closure handle tag => writeScalar (.closure handle tag)
  | other => other.keyText

mutual

def writeBare : Value → String
  | .scalar content => writeBareScalar content
  | .list items => "[" ++ writeBareItems items ++ "]"
  | .mapping entries => "\x7b" ++ writeBareFields entries ++ "\x7d"

def writeBareItems : List Value → String
  | [] => ""
  | [item] => writeBare item
  | item :: rest => writeBare item ++ "," ++ writeBareItems rest

def writeBareFields : List (Scalar × Value) → String
  | [] => ""
  | [(key, content)] => writeText key.keyText ++ ":" ++ writeBare content
  | (key, content) :: rest =>
    writeText key.keyText ++ ":" ++ writeBare content ++ "," ++ writeBareFields rest

end

mutual

def writeDocument : Document → String
  | .value content => write content
  | .bare content => writeBare content
  | .list items => "[" ++ writeDocuments items ++ "]"
  | .object fields => "\x7b" ++ writeDocumentFields fields ++ "\x7d"

def writeDocuments : List Document → String
  | [] => ""
  | [item] => writeDocument item
  | item :: rest => writeDocument item ++ "," ++ writeDocuments rest

def writeDocumentFields : List (String × Document) → String
  | [] => ""
  | [(name, content)] => writeText name ++ ":" ++ writeDocument content
  | (name, content) :: rest =>
    writeText name ++ ":" ++ writeDocument content ++ "," ++ writeDocumentFields rest

end

end Json
end Interplay
