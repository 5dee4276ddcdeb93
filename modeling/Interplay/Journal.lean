import Interplay.Value.Order

/-!
What a run leaves behind besides its results: log records, a trace of what host code recorded, host
notes, and the clock, which moves only when it is told to.
-/

namespace Interplay

inductive LogLevel where
  | warning
  | error
  deriving DecidableEq

inductive LogSource where
  | evaluate
  | execute
  | signal
  | metrics
  deriving DecidableEq

structure LogRecord where
  level : LogLevel
  source : LogSource
  message : String
  deriving DecidableEq

abbrev NoteKey := String × Scalar

structure Journal where
  logs : List LogRecord
  trace : List Value
  /-- What host code keeps for itself. -/
  notes : Keyed NoteKey Value
  /-- Seconds since the start. -/
  clock : Float
  /-- The next occurrence number for a not-a-number that is computed. -/
  nextOccurrence : Nat

namespace Journal

def empty : Journal :=
  { logs := [], trace := [], notes := [], clock := 0.0, nextOccurrence := 0 }

def log (level : LogLevel) (source : LogSource) (message : String) (journal : Journal) : Journal :=
  { journal with logs := journal.logs ++
    [{ level := level, source := source, message := message }] }

def record (entry : Value) (journal : Journal) : Journal :=
  { journal with trace := journal.trace ++ [entry] }

def remember (key : NoteKey) (note : Value) (journal : Journal) : Journal :=
  { journal with notes := Keyed.insert key note journal.notes }

def lookUp (key : NoteKey) (journal : Journal) : Value :=
  (Keyed.find? key journal.notes).getD .null

def notesOf (space : String) (journal : Journal) : Keyed Scalar Value :=
  (journal.notes.filter fun note => note.1.1 == space).map fun note => (note.1.2, note.2)

/-- What the clock shows. -/
def now (journal : Journal) : Value :=
  .ofFloat 0 journal.clock

def advance (seconds : Value) (journal : Journal) : Except Failure Journal :=
  match seconds.addTo journal.clock with
  | .ok clock => .ok { journal with clock := clock }
  | .error failure => .error failure

def flush (journal : Journal) : Journal :=
  { journal with logs := [], trace := [] }

end Journal
end Interplay
