import Interplay.Formula
import Interplay.Value.Key

/-!
Formulas from persisted documents.

Reading is lenient: a missing field is empty, an unknown variant is no formula, and an entry of a
list that is no object is skipped.  It fails only where a field that should be a list is a filled
number or true, and where a name is a number too long to be written.
-/

namespace Interplay
namespace Formula

def readSegments (source : Value) : Except Failure (List String) :=
  match source.elements with
  | .error failure => .error failure
  | .ok items => items.mapM Value.written

def readName (entries : Entries) : Except Failure String :=
  match Keyed.find? (.text "name") entries with
  | some found => found.written
  | none => .ok ""

/-- What is left of a field that holds no list: nothing, or a failure. -/
def noItems {α : Type} (source : Value) : Except Failure (List α) :=
  match source.elements with
  | .error failure => .error failure
  | .ok _ => .ok []

mutual

def read : Value → Except Failure (Option Formula)
  | .mapping entries =>
    match (Keyed.find? (.text "type") entries).getD .null with
    | .text "value" => .ok (some (.value ((Keyed.find? (.text "value") entries).getD .null)))
    | .text "path" => do
      let segments ← readSegments ((Keyed.find? (.text "path") entries).getD .null)
      return some (.path segments)
    | .text "function" => do
      let name ← readName entries
      let arguments ← readArgumentsField entries
      return some (.function name arguments (Value.field "package" (.mapping entries)).filled)
    | .text "apply" => do
      let name ← readName entries
      let arguments ← readArgumentsField entries
      return some (.apply name arguments)
    | .text "object" => do
      let arguments ← readArgumentsField entries
      return some (.object arguments)
    | .text "record" => do
      let arguments ← readArgumentsField entries
      return some (.record arguments)
    | .text "array" => do
      let arguments ← readArgumentsField entries
      return some (.array arguments)
    | .text "or" => do
      let arguments ← readArgumentsField entries
      return some (.or arguments)
    | .text "and" => do
      let arguments ← readArgumentsField entries
      return some (.and arguments)
    | .text "switch" => do
      let cases ← readCasesField entries
      let fallback ← readField "default" entries
      return some (.switch cases fallback)
    | _ => .ok none
  | _ => .ok none

def readField (name : String) : List (Scalar × Value) → Except Failure (Option Formula)
  | [] => .ok none
  | (key, content) :: rest => if key.same (.text name) then read content else readField name rest

def readArgumentsField : List (Scalar × Value) → Except Failure (List Argument)
  | [] => .ok []
  | (key, content) :: rest =>
    if key.same (.text "arguments") then readArguments content else readArgumentsField rest

def readArguments : Value → Except Failure (List Argument)
  | .list items => readArgumentItems items
  | other => noItems other

def readArgumentItems : List Value → Except Failure (List Argument)
  | [] => .ok []
  | .mapping entries :: rest => do
    let formula ← readField "formula" entries
    let name := (Value.field "name" (.mapping entries)).filled
    let isFunction := (Value.field "isFunction" (.mapping entries)).isFilled
    let others ← readArgumentItems rest
    return .mk formula name isFunction :: others
  | _ :: rest => readArgumentItems rest

def readCasesField : List (Scalar × Value) → Except Failure (List FormulaCase)
  | [] => .ok []
  | (key, content) :: rest =>
    if key.same (.text "cases") then readCases content else readCasesField rest

def readCases : Value → Except Failure (List FormulaCase)
  | .list items => readCaseItems items
  | other => noItems other

def readCaseItems : List Value → Except Failure (List FormulaCase)
  | [] => .ok []
  | .mapping entries :: rest => do
    let condition ← readField "condition" entries
    let result ← readField "formula" entries
    let others ← readCaseItems rest
    return .mk condition result :: others
  | _ :: rest => readCaseItems rest

end

end Formula
end Interplay
