import Interplay.Evaluate.Machine
import Interplay.Limits.Reader

/-!
Hosts from documents: the capacity of the sink, whether there is a memo, and which metrics are
taken.
-/

namespace Interplay

def Sink.read {α : Type} (limits : Limits) (source : Value) : Sink α :=
  Sink.ofCapacity (limits.orCeiling "error" "max_errors" (source.field "max_errors"))

/-- Metrics are absent, taken, or present but disabled. -/
def Metrics.read (now : Value) (source : Value) : Option (Metrics Value) :=
  match source with
  | .text "disabled" => some (Metrics.empty false now)
  | other => if other.isFilled then some (Metrics.empty true now) else none

namespace Machine

/-- A machine without hosts; computed not-a-numbers are counted from `occurrence` on. -/
def fresh (limits : Limits) (occurrence : Nat) : Machine :=
  { limits := limits, journal := { Journal.empty with nextOccurrence := occurrence }, hosts := #[],
    cycleStacks := #[], closures := #[] }

def readHost (machine : Machine) (source : Value) : HostState :=
  { sink := Sink.read machine.limits source
    memo := if (source.field "cache").isFilled then some Memo.empty else none
    metrics := Metrics.read machine.now (source.field "metrics")
    trail := Trail.empty }

end Machine
end Interplay
