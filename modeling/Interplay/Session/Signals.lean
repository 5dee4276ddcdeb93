import Interplay.Session
import Interplay.Signal.Reader

/-!
Sessions on named signals.
-/

namespace Interplay
namespace Session

def signalFuel : Nat := 1000000

def effectFuel : Nat := 1000

def signalText (id : Value) (bench : Signal.Bench) : Except Failure String := do
  return ((Keyed.find? (← id.toKey) bench.named).map Signal.Cell.display).getD Value.null.display

def signalStep (step : Value) : Run Signal.Bench Document := do
  let result ← Signal.run signalFuel (Signal.readScript effectFuel step)
  let bench ← Run.get
  if (step.field "do").same (.text "repr") then
    return .text (← Run.ofExcept (signalText (step.field "id") bench))
  else
    return result.content

def signalFields (around : Surroundings) (bench : Signal.Bench) : Fields × Signal.Bench :=
  let shown := bench.named.map fun entry =>
    (entry.1, Document.value (.list [entry.2.content, .bool entry.2.isDestroyed]))
  (journalFields around bench.host ++ [("signals", .keyed shown)],
    { bench with host := bench.host.flush })

def signalDesk (around : Surroundings) : Desk Signal.Bench :=
  ⟨around, signalStep, signalFields around⟩

end Session
end Interplay
