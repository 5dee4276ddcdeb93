import Interplay.Value.Entries
import Interplay.Text.Quoted

/-!
Texts of values in messages.

`display` shows a text bare; inside a list or mapping, and under `quoted`, it stands in quotes.  A
whole number of too many digits is not meant to be shown: `isWritable` tells, and asking is up to
the reader of a value.
-/

namespace Interplay

namespace Scalar

def closureText (handle : Nat) (tag : String) : String :=
  "<FormulaClosure " ++ tag ++ " at 0x" ++ String.ofList (Nat.toDigits 16 handle) ++ ">"

def quoted : Scalar → String
  | null => "None"
  | bool flag => if flag then "True" else "False"
  | int number => toString number
  | float number => Decimal.text number
  | nan _ => "nan"
  | text content => Text.quoted content
  | closure handle tag => closureText handle tag

def display : Scalar → String
  | text content => content
  | other => other.quoted

def isWritable : Scalar → Bool
  | int number => (toString number.natAbs).length ≤ Number.digitLimit
  | _ => true

end Scalar

namespace Value

mutual

def quoted : Value → String
  | scalar content => content.quoted
  | list items => "[" ++ quotedItems items ++ "]"
  | mapping entries => "\x7b" ++ quotedEntries entries ++ "\x7d"

def quotedItems : List Value → String
  | [] => ""
  | [item] => quoted item
  | item :: rest => quoted item ++ ", " ++ quotedItems rest

def quotedEntries : List (Scalar × Value) → String
  | [] => ""
  | [(key, value)] => key.quoted ++ ": " ++ quoted value
  | (key, value) :: rest => key.quoted ++ ": " ++ quoted value ++ ", " ++ quotedEntries rest

end

mutual

def isWritable : Value → Bool
  | scalar content => content.isWritable
  | list items => allWritable items
  | mapping entries => entriesWritable entries

def allWritable : List Value → Bool
  | [] => true
  | item :: rest => isWritable item && allWritable rest

def entriesWritable : List (Scalar × Value) → Bool
  | [] => true
  | (key, value) :: rest => key.isWritable && isWritable value && entriesWritable rest

end

def display : Value → String
  | scalar content => content.display
  | other => other.quoted

/-- A name as the package in this value knows it; without a package, the bare name. -/
def qualify (package : Value) (name : String) : String :=
  if package.isFilled then package.display ++ "/" ++ name else name

end Value
end Interplay
