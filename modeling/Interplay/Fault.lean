import Interplay.Value.Display

/-!
Failures: what running code may raise, and the attributed faults that are kept.

A mishap is a failure of the machinery or of host code.  A fault is a failure in terms of the
languages, with the path of steps that led to it.  All wordings are here.
-/

namespace Interplay

/-- One frame of the path that led to a fault. -/
structure TrailStep where
  kind : Value
  name : Value
  package : Value
  context : Value

namespace TrailStep

/-- A step without a package and a context. -/
def plain (kind name : Value) : TrailStep :=
  { kind := kind, name := name, package := .null, context := .null }

def display (step : TrailStep) : String :=
  step.kind.display ++ ":" ++ step.package.qualify step.name.display

def displayPath (path : List TrailStep) : String :=
  String.intercalate " → " (path.map display)

end TrailStep

inductive Mishap where
  | notIterable (typeName : String)
  /-- A value that is searched for a part although it has none. -/
  | notSearchable (typeName : String)
  /-- A value that is spread into a list although it has no items. -/
  | notSpreadable (typeName : String)
  | unhashable (typeName : String)
  | notMapping (typeName : String)
  /-- Named arguments that are no mapping. -/
  | notArguments (callee typeName : String)
  | unexpectedArgument (callee name : String)
  /-- A named argument that was given by its position already. -/
  | repeatedArgument (callee name : String)
  /-- A named argument that was given by its name already. -/
  | repeatedName (callee name : String)
  /-- New ceilings for something that is no group of ceilings. -/
  | notReplaceable
  | noAttribute (typeName member : String)
  /-- A name that is no text. -/
  | notName (typeName : String)
  /-- An argument list whose element cannot be a pair. -/
  | notPair (index : Nat)
  | unevenPair (index length : Nat)
  /-- A key that a mapping does not have. -/
  | missingKey (key : Value)
  /-- A position beyond the end of a list. -/
  | missingItem
  /-- A list asked for something that is no position. -/
  | notPosition (typeName : String)
  /-- A part of a list asked for by something that is no position. -/
  | notBound
  | notSubscriptable (typeName : String)
  /-- A text asked for something that is no position. -/
  | notTextPosition
  /-- A value taken apart into a pair although it has no parts. -/
  | notUnpackable (typeName : String)
  /-- A value taken apart into a pair although it has fewer or more parts. -/
  | notTwo (parts : Nat)
  | notCallable (typeName : String)
  /-- Operands of a sum that do not fit each other. -/
  | notSummable (operator left right : String)
  /-- Something that is appended to a sequence of another type. -/
  | notAppendable (left right : String)
  /-- An item among texts to be joined that is no text. -/
  | notJoinable (position : Nat) (typeName : String)
  | notComparable (operator left right : String)
  /-- An item of a byte sequence that is no whole number. -/
  | notWhole (typeName : String)
  /-- An item of a byte sequence that is out of range. -/
  | notByte
  /-- A byte sequence from a value that has no bytes. -/
  | notBytes (typeName : String)
  /-- A byte sequence from a text. -/
  | noEncoding
  | negativeSize
  /-- A number that is too far from zero to be a size. -/
  | notSize
  /-- A whole number beyond every floating-point number. -/
  | tooLarge
  /-- A whole number with too many digits to be shown. -/
  | notWritable
  /-- A text of too many digits to be read as a whole number. -/
  | notReadable (digits : Nat)
  /-- A promise that is settled again; `state` says how it was settled before. -/
  | settledBefore (state detail : String)
  /-- A promise that is cancelled although it is settled. -/
  | notCancellable
  | unknownCategory (category : String)
  /-- Host code gave up. -/
  | failed (message : String)
  /-- Host code was given a value that it does not take. -/
  | rejected (message : String)
  /-- Raised by host code, which names the kind itself. -/
  | host (label message : String)

namespace Mishap

def digitAdvice (remark : String) : String :=
  "Exceeds the limit (" ++ toString Number.digitLimit ++ " digits) for integer string conversion" ++
    remark ++ "; use sys.set_int_max_str_digits() to increase the limit"

def message : Mishap → String
  | notIterable typeName => "'" ++ typeName ++ "' object is not iterable"
  | notSearchable typeName => "argument of type '" ++ typeName ++ "' is not iterable"
  | notSpreadable typeName => "Value after * must be an iterable, not " ++ typeName
  | unhashable typeName => "unhashable type: '" ++ typeName ++ "'"
  | notMapping typeName => "'" ++ typeName ++ "' object is not a mapping"
  | notArguments callee typeName =>
    callee ++ "() argument after ** must be a mapping, not " ++ typeName
  | unexpectedArgument callee name =>
    callee ++ "() got an unexpected keyword argument '" ++ name ++ "'"
  | repeatedArgument callee name => callee ++ "() got multiple values for argument '" ++ name ++ "'"
  | repeatedName callee name =>
    callee ++ "() got multiple values for keyword argument '" ++ name ++ "'"
  | notReplaceable => "replace() should be called on dataclass instances"
  | noAttribute typeName member => "'" ++ typeName ++ "' object has no attribute '" ++ member ++ "'"
  | notName typeName => "attribute name must be string, not '" ++ typeName ++ "'"
  | notPair index =>
    "cannot convert dictionary update sequence element #" ++ toString index ++ " to a sequence"
  | unevenPair index length =>
    "dictionary update sequence element #" ++ toString index ++ " has length " ++ toString length
      ++ "; 2 is required"
  | missingKey key => key.quoted
  | missingItem => "list index out of range"
  | notPosition typeName => "list indices must be integers or slices, not " ++ typeName
  | notBound => "slice indices must be integers or None or have an __index__ method"
  | notSubscriptable typeName => "'" ++ typeName ++ "' object is not subscriptable"
  | notTextPosition => "string indices must be integers, not 'str'"
  | notUnpackable typeName => "cannot unpack non-iterable " ++ typeName ++ " object"
  | notTwo parts =>
    if parts < 2 then "not enough values to unpack (expected 2, got " ++ toString parts ++ ")"
    else "too many values to unpack (expected 2)"
  | notCallable typeName => "'" ++ typeName ++ "' object is not callable"
  | notSummable operator left right =>
    "unsupported operand type(s) for " ++ operator ++ ": '" ++ left ++ "' and '" ++ right ++ "'"
  | notAppendable left right =>
    "can only concatenate " ++ left ++ " (not \"" ++ right ++ "\") to " ++ left
  | notJoinable position typeName =>
    "sequence item " ++ toString position ++ ": expected str instance, " ++ typeName ++ " found"
  | notComparable operator left right =>
    "'" ++ operator ++ "' not supported between instances of '" ++ left ++ "' and '" ++ right ++ "'"
  | notWhole typeName => "'" ++ typeName ++ "' object cannot be interpreted as an integer"
  | notByte => "bytes must be in range(0, 256)"
  | notBytes typeName => "cannot convert '" ++ typeName ++ "' object to bytes"
  | noEncoding => "string argument without an encoding"
  | negativeSize => "negative count"
  | notSize => "cannot fit 'int' into an index-sized integer"
  | tooLarge => "int too large to convert to float"
  | notWritable => digitAdvice ""
  | notReadable digits => digitAdvice (": value has " ++ toString digits ++ " digits")
  | settledBefore state detail => state ++ ": <Future state=" ++ detail ++ ">"
  | notCancellable => "Future in unexpected state"
  | unknownCategory category => Text.quoted ("Unknown limits category: " ++ category)
  | failed message => message
  | rejected message => message
  | host _ message => message

end Mishap

inductive FaultSource where
  | general
  | formula (name type : Value)
  | action (type index : Value)
  | limit (category name value ceiling : Value)
  | cycle (domain : Value) (path : List Value) (repeated : Value)

structure Fault where
  source : FaultSource
  kind : Value
  message : Value
  path : List TrailStep
  component : Value
  suggestedFix : Value
  cause : Option Mishap

namespace Fault

/-- What stands in logs and lists. -/
def text (fault : Fault) : String :=
  fault.message.display

def occursIn (part : List Char) : List Char → Bool
  | [] => part.isEmpty
  | character :: rest => part.isPrefixOf (character :: rest) || occursIn part rest

def mentionsNull (message : String) : Bool :=
  occursIn "None".toList message.toList || occursIn "null".toList message.toList

/-- Advice for a formula fault, from whether its message speaks of a missing value and from the type
of its formula. -/
def formulaFix (mentioned : Bool) (type : Value) : Value :=
  if mentioned then
    .text "Check that the data path exists and has a value."
  else
    match type with
    | .text "path" => .text "Verify the path segments against the component data."
    | .text "function" => .text "Check the arguments and that the formula is registered."
    | _ => .null

def general (kind message : Value) (path : List TrailStep) : Fault :=
  { source := .general, kind := kind, message := message, path := path,
    component := .null, suggestedFix := .null, cause := none }

def formula (name type message : String) (path : List TrailStep) (component : Value)
    (cause : Option Mishap) :
    Fault :=
  { source := .formula (.text name) (.text type), kind := .text "formula_evaluation",
    message := .text message,
    path := path, component := component,
    suggestedFix := formulaFix (mentionsNull message) (.text type), cause := cause }

def action (type index message : Value) (path : List TrailStep) (component : Value)
    (cause : Option Mishap) :
    Fault :=
  { source := .action type index, kind := .text "action_execution",
    message := message, path := path,
    component := component, suggestedFix := .null, cause := cause }

def limit (category name value ceiling : Value) : Fault :=
  { source := .limit category name value ceiling, kind := .text "limit_exceeded",
    message := .text
      (category.display ++ "." ++ name.display ++ " exceeded: " ++ value.display ++ " > "
      ++ ceiling.display),
    path := [], component := .null, suggestedFix := .null, cause := none }

def cycle (domain : Value) (path : List Value) (repeated : Value) (chain : String) : Fault :=
  { source := .cycle domain path repeated, kind := .text "cycle_detected",
    message := .text ("Circular " ++ domain.display ++ " reference detected: " ++ chain),
    path := [], component := .null, suggestedFix := .null, cause := none }

/-- A fault without a path of its own takes the given one. -/
def stamp (path : List TrailStep) (fault : Fault) : Fault :=
  if fault.path.isEmpty then { fault with path := path } else fault

end Fault

inductive Failure where
  | fault (fault : Fault)
  | mishap (mishap : Mishap)

namespace Failure

def message : Failure → String
  | fault raised => raised.text
  | mishap raised => raised.message

def texts : Nat → List Value → Except Failure (List String)
  | _, [] => .ok []
  | position, .text content :: rest => (texts (position + 1) rest).map (content :: ·)
  | position, other :: _ => .error (.mishap (.notJoinable position other.typeName))

/-- A cycle that the repeated key closes; keys on the path have to be texts, because the message
joins them. -/
def cycle (domain : Value) (path : List Value) (repeated : Value) : Failure :=
  if path.isEmpty then .fault (Fault.cycle domain path repeated repeated.display)
  else
    match texts 0 (path ++ [repeated]) with
    | .ok contents => .fault (Fault.cycle domain path repeated (String.intercalate " → " contents))
    | .error failure => failure

/-- Turns any failure into a fault: a fault is stamped, a mishap becomes the cause of a new one. -/
def attributed (path : List TrailStep) (kind : Value) : Failure → Fault
  | fault raised => raised.stamp path
  | mishap raised => { Fault.general kind (.text raised.message) path with cause := some raised }

theorem texts_map_text (position : Nat) (contents : List String) :
    texts position (contents.map Value.text) = .ok contents := by
  induction contents generalizing position with
  | nil => rfl
  | cons content rest ih => simp [texts, ih, Except.map]

end Failure

end Interplay
