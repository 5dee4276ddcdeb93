import Interplay.Document
import Interplay.Fault.Report
import Interplay.Journal
import Interplay.Limits.Reader
import Interplay.Run
import Interplay.Value.Key

/-!
Sessions: documents of steps, which are answered one by one.

A failing step is answered with its failure, and the steps after it still run.  A step may hold
steps of its own.  What the kinds of failures, the speakers in a log and some host code are called
is up to the surroundings.
-/

namespace Interplay

inductive FailureKind where
  | general
  | formula
  | action
  | limit
  | cycle
  | missingKey
  /-- A failure of host code. -/
  | host (label : String)

structure Surroundings where
  failureName : Failure → String
  failureKind : String → FailureKind
  sourceName : LogSource → String
  /-- What failures call an operation. -/
  operationName : String → String
  /-- Where limits tables are defined. -/
  limitsHome : String
  /-- The handler that raises a fault which its entry describes. -/
  faultHandler : String
  /-- What such a fault says if its entry does not. -/
  faultMessage : String

namespace Session

abbrev Fields := List (String × Document)

variable {σ : Type}

/-! ### Answers -/

def faultObject (around : Surroundings) (fault : Fault) : Value :=
  .object ([
    ("name", .text (around.failureName (.fault fault))),
    ("cause_type",
      .ofOption (fault.cause.map fun mishap => around.failureName (.mishap mishap)))] ++
      fault.fields)

def failureFields (around : Surroundings) (failure : Failure) : Fields :=
  let shown := [("error", .text (around.failureName failure)), ("message", .text failure.message)]
  match failure with
  | .mishap _ => shown
  | .fault fault => shown ++ [("detail", .value (faultObject around fault))]

def outcomeFields (around : Surroundings) : Except Failure Document → Fields
  | .ok content => [("result", content)]
  | .error failure => failureFields around failure

def answer (around : Surroundings) (outcome : Except Failure Document) : Document :=
  .object (outcomeFields around outcome)

def listField (name : String) (items : List Value) : Fields :=
  if items.isEmpty then [] else [(name, .value (.list items))]

def levelName : LogLevel → String
  | .warning => "WARNING"
  | .error => "ERROR"

def logValue (around : Surroundings) (record : LogRecord) : Value :=
  .texts [levelName record.level, around.sourceName record.source, record.message]

def journalFields (around : Surroundings) (journal : Journal) : Fields :=
  listField "trace" journal.trace ++ listField "logs" (journal.logs.map (logValue around))

/-! ### Steps -/

/-- How steps are answered: what one does, and what its answer shows besides; what was shown may be
forgotten. -/
structure Desk (σ : Type) where
  around : Surroundings
  step : Value → Run σ Document
  extra : σ → Fields × σ

/-- Nothing more is shown. -/
def silent (state : σ) : Fields × σ := ([], state)

def actionOr (standard : String) : Value → Except Failure String
  | .mapping entries => .ok ((Value.mapping entries).fieldOr "do" (.text standard)).display
  | other => .error (.mishap (.noAttribute other.typeName "get"))

/-- What a step does, which it has to say. -/
def action (step : Value) : Except Failure String :=
  (step.need "do").map Value.display

/-- Whether a step inside a block is the one that ends it by a failure. -/
def isRaise (step : Value) : Bool :=
  (step.field "do").same (.text "raise")

namespace Desk

def answer (desk : Desk σ) (step : Value) (state : σ) : Document × σ :=
  let reached : Except Failure Document × σ :=
    match desk.step step state with
    | .done content after => (.ok content, after)
    | .raised failure after => (.error failure, after)
    | .exhausted => (.error (.mishap (.failed "out of fuel")), state)
  let shown := desk.extra reached.2
  (.object (outcomeFields desk.around reached.1 ++ shown.1), shown.2)

/-- Answers all steps, or those before one that says `stop`; tells whether there was one. -/
def answers (desk : Desk σ) (stop : Value → Bool) : List Value → σ → List Document × Bool × σ
  | [], state => ([], false, state)
  | step :: rest, state =>
    if stop step then ([], true, state)
    else
      let first := desk.answer step state
      let others := desk.answers stop rest first.2
      (first.1 :: others.1, others.2)

/-- The answers to the steps inside a step, and whether one that raises ended them. -/
def inner (desk : Desk σ) (step : Value) : Run σ (List Document × Bool) := do
  let steps ← Run.ofExcept (step.needItems "steps")
  fun state =>
    let (answers, raised, after) := desk.answers isRaise steps state
    .done (answers, raised) after

/-- A whole session. -/
def run (desk : Desk σ) (source : Value) (state : σ) : Document :=
  match source.needItems "steps" with
  | .ok steps => .object [("steps", .list (desk.answers (fun _ => false) steps state).1)]
  | .error failure => Session.answer desk.around (.error failure)

end Desk

def boom : Failure := .mishap (.failed "boom")

def Desk.block (desk : Desk σ) (step : Value) : Run σ Document := do
  let (answers, raised) ← desk.inner step
  if raised then Run.raise boom else pure (.list answers)

/-! ### Common steps -/

def quiet (body : Run σ Unit) : Run σ Document := do
  body
  pure .null

def showing (body : Run σ Value) : Run σ Document := do
  return .value (← body)

def change (update : σ → σ) : Run σ Document :=
  quiet (Run.modify update)

def look (view : σ → Value) : Run σ Document := do
  return .value (view (← Run.get))

def known {α : Type} (table : Keyed Scalar α) (name : Value) : Except Failure α := do
  match Keyed.find? (← name.toKey) table with
  | some content => return content
  | none => .error (.mishap (.missingKey name))

def orNull {α : Type} (content : α → Value) (found : Option α) : Value :=
  (found.map content).getD .null

def limitSetter (around : Surroundings) : String :=
  around.operationName "set_limits"

/-- Resets the ceilings and sets some, as far as a step asks for it. -/
def changeLimits (around : Surroundings) (step : Value) : Run Limits Unit := do
  if (step.field "reset").isFilled then Run.modify fun _ => Limits.standard
  match step.field? "set" with
  | some changes => Run.update (Limits.set (limitSetter around) changes)
  | none => pure ()

def startLimits (around : Surroundings) (source : Value) : Except Failure Limits :=
  Limits.read (limitSetter around) (source.field "limits")

end Session
end Interplay
