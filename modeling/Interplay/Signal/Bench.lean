import Interplay.Signal.Store
import Interplay.Value.Key

/-!
Signals on their own: scripts whose only further effects are entries in the journal.
-/

namespace Interplay
namespace Signal

/-- Entries that host code makes in the journal. -/
inductive Note where
  | record (entry : Value)
  | remember (key : NoteKey) (note : Value)
  | lookUp (key : NoteKey)

def Note.apply : Note → Journal → Value × Journal
  | .record entry, journal => (.null, journal.record entry)
  | .remember key note, journal => (.null, journal.remember key note)
  | .lookUp key, journal => (journal.lookUp key, journal)

class HasNotes (ε : Type) where
  note : Note → ε

instance : HasNotes Note := ⟨id⟩

namespace Script

variable {ε : Type} [HasNotes ε]

def record (entry : Value) (next : Script ε) : Script ε :=
  perform (HasNotes.note (.record entry)) fun _ => next

def remember (key : NoteKey) (note : Value) (next : Script ε) : Script ε :=
  perform (HasNotes.note (.remember key note)) fun _ => next

def lookUp (key : NoteKey) (next : Value → Script ε) : Script ε :=
  perform (HasNotes.note (.lookUp key)) fun outcome =>
    match outcome with
    | .ok note => next note
    | .error _ => next .null

def withKey (value : Value) (next : Scalar → Script ε) : Script ε :=
  match value.toKey with
  | .ok key => next key
  | .error failure => .fail failure

def withNote (space : String) (value : Value) (next : Value → Script ε) : Script ε :=
  withKey value fun key =>
    lookUp (space, key) fun note => if note.isNull then .fail
      (.mishap (.missingKey value)) else next note

end Script

abbrev Bench := Store Note Journal

def Bench.empty : Bench :=
  { cells := #[], nextSubscription := 0, host := Journal.empty }

def performNote (note : Note) : Run Bench Value := fun bench =>
  let outcome := note.apply bench.host
  .done outcome.1 { bench with host := outcome.2 }

/-- Runs a script with fuel for the nesting of callbacks. -/
def run : Nat → Script Note → Run Bench (Answer Note)
  | 0 => fun _ => Run.exhaust
  | fuel + 1 => runScript (run fuel) performNote

end Signal
end Interplay
