import Interplay.Signal.Bench
import Interplay.Value.Fields

/-!
Scripts from documents.

A step names what it does and the signal it does it to; signals and subscriptions are known by the
names they were given.  Callbacks record that they were called and then run their effects, which are
steps too and may depend on the notified content.
-/

namespace Interplay
namespace Signal

def signalSpace : String := "signal"

def subscriptionSpace : String := "subscription"

def withName (name : Value) (next : Value → Script Note) : Script Note :=
  .withKey name fun key => .lookUp (signalSpace, key) next

def withSignal (name : Value) (member : String) (next : Nat → Script Note) : Script Note :=
  withName name fun found =>
    if found.isNull then .fail (.mishap (.noAttribute found.typeName member)) else next found.toNat

/-- The entry of a mapping under any key; null if there is none or the content is no mapping. -/
def entryOf (key content : Value) : Script Note :=
  match content with
  | .mapping entries => .withKey key fun found => .ofValue ((Keyed.find? found entries).getD .null)
  | _ => .ofValue .null

def transformed (source content : Value) : Script Note :=
  match source.fieldText "fn", content with
  | "identity", _ => .ofValue content
  | "inc", .int number => .ofValue (.int (number + 1))
  | "parity", .int number => .ofValue (.int (number % 2))
  | "const", _ => .ofValue (source.field "value")
  | "get", _ => entryOf (source.field "key") content
  | "wrap", _ => .ofValue (.list [content])
  | "fail_if", _ =>
    if content.same (source.field "value") then .fail (.mishap (.failed "fn failed"))
    else .ofValue content
  | "fail", _ => .fail (.mishap (.failed "fn failed"))
  | other, _ => .fail (.mishap (.rejected (other ++ ": not an integer")))

def transform (label source content : Value) : Script Note :=
  .record (.list [.text "fn", label, content]) (transformed source content)

/-- Whether an effect takes place for a notified content. -/
def applies (effect content : Value) : Except Failure Bool :=
  if (effect.field? "when").all fun expected => expected.same content then
    match effect.field? "below" with
    | some ceiling => content.compare .below ceiling
    | none => .ok true
  else
    .ok false

def sequence (step : Value → Script Note) (content : Value) : List Value → Script Note
  | [] => .done
  | effect :: rest =>
    match applies effect content with
    | .error failure => .fail failure
    | .ok true => .andThen (fun _ => sequence step content rest) (step effect)
    | .ok false => sequence step content rest

def callback (step : Value → Script Note) (entry effects content : Value) : Script Note :=
  .record entry (match effects with
    | .list items => sequence step content items
    | _ => .done)

def stepScript (inner : Value → Script Note) (step : Value) : Script Note :=
  let name := step.field "id"
  match (step.field "do").display with
  | "new" =>
    let onDestroy := (step.field? "on_destroy").map fun effects =>
      callback inner (.list [.text "on_destroy", name]) effects .null
    .create (step.field "value") onDestroy fun number =>
      .withKey name fun key => .remember (signalSpace, key) (.ofNat number) .done
  | "get" => withSignal name "get" fun number => .read number .ofValue
  | "set" => withSignal name "set" fun number => .write number (step.field "value") .done
  | "update" =>
    withSignal name "update" fun number => .update number (transform name (step.field "fn")) .done
  | "sub" =>
    let subscription := step.field "sub"
    let notify := fun content =>
      callback inner (.list [.text "notify", subscription, content]) (step.field "then") content
    let teardown := (step.field? "teardown").map fun effects =>
      callback inner (.list [.text "teardown", subscription]) effects .null
    withSignal name "subscribe" fun number =>
      .subscribe number notify teardown fun found =>
        .withKey subscription fun key =>
          .remember (subscriptionSpace, key) (.list [.ofNat number, .ofNat found]) .done
  | "unsub" =>
    .withKey (step.field "sub") fun key =>
      .lookUp (subscriptionSpace, key) fun found =>
        match found with
        | .list [signal, subscription] => .unsubscribe signal.toNat subscription.toNat .done
        | _ => .done
  | "destroy" => withSignal name "destroy" fun number => .destroy number .done
  | "clean" => withSignal name "clean_subscribers" fun number => .clean number .done
  | "map" =>
    withSignal name "map" fun number =>
      .derive number (transform (step.field "to") (step.field "fn")) fun outcome =>
        match outcome with
        | .ok derived =>
          .withKey (step.field "to") fun key => .remember (signalSpace, key) (.ofNat derived) .done
        | .error failure => .fail failure
  | "is_signal" => withName name fun found => .ofValue (.list [.bool (!found.isNull), .bool false])
  | "fail" => .fail (.mishap (.failed "effect failed"))
  | _ => .done

/-- A script from a document, with fuel for how deep effects nest.  Every step has to say what it
does. -/
def readScript : Nat → Value → Script Note
  | 0, _ => .done
  | fuel + 1, step =>
    match step.need "do" with
    | .error failure => .fail failure
    | .ok _ => stepScript (readScript fuel) step

def Bench.named (bench : Bench) : Keyed Scalar (Cell Note) :=
  (bench.host.notesOf signalSpace).map fun note => (note.1, bench.cell note.2.toNat)

end Signal
end Interplay
