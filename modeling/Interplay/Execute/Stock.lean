import Interplay.Execute.World
import Interplay.Value.Fields

/-!
Stock host code for actions: plans of handlers, APIs and callables, which record what they are asked
to do.
-/

namespace Interplay
namespace Execute
namespace Stock

def failing (message : String) : Plan :=
  .fail (.mishap (.failed message))

def cleanup (label : Value) (next : Plan) : Plan :=
  .record (.list [.text "cleanup", label]) next

def deferred (name : Value) (plan : Plan) : Plan :=
  .finish (.deferred (.record (.list [.text "deferred", name]) plan))

def emitterSpace : String := "emitter"

def promiseSpace : String := "promise"

def fetchSpace (host : Nat) : String := "fetch:" ++ toString host

def withArgument (name : String) (arguments : Value) (next : Value → Plan) : Plan :=
  match arguments.need name with
  | .ok content => next content
  | .error failure => .fail failure

def rememberAs (space : String) (arguments note : Value) (next : Plan) : Plan :=
  withArgument "id" arguments fun id => .withKey id fun key => .remember (space, key) note next

def promise (arguments : Value) : Plan :=
  .perform .promise fun outcome =>
    match outcome with
    | .ok number => rememberAs promiseSpace arguments number (.finish (.promise number.toNat))
    | .error failure => .fail failure

def sleep (seconds : Value) : Plan :=
  .perform (.advance seconds) fun outcome =>
    match outcome with
    | .ok _ => .done
    | .error failure => .fail failure

/-- The plan of a handler that the entry names; `other` decides about names that are not known
here. -/
def plan (signals : Keyed Scalar Nat) (other : String → Plan) (entry arguments : Value)
    (site : CallSite) : Plan :=
  let emit := Plan.resume site.trigger (arguments.field "event") (arguments.field "data") .done
  let label := arguments.field "label"
  let later := deferred (entry.field "name")
  match entry.fieldText "handler" with
  | "log" => .done
  | "emit" => emit
  | "save_emitter" => rememberAs emitterSpace arguments (.ofNat site.trigger) .done
  | "cleanup" => .finish (.cleanup (cleanup label .done))
  | "cleanup_fail" => .finish (.cleanup (cleanup label (failing "cleanup failed")))
  | "value" => .ofValue (arguments.field "value")
  | "fail" => failing (entry.fieldOr "message" (.text "action failed")).display
  | "destroy" =>
    .withKey (entry.field "instance") fun name =>
      match Keyed.find? name signals with
      | some number => .destroy number .done
      | none => .fail (.mishap (.missingKey (.scalar name)))
  | "sleep" => withArgument "s" arguments sleep
  | "future" => promise arguments
  | "async_cleanup" => later (.finish (.cleanup (cleanup label .done)))
  | "async_value" => later (.ofValue label)
  | "async_fail" => later (failing "deferred failed")
  | "async_emit" => later emit
  | name => other name

/-- A handler that records every call before it runs its plan. -/
def handler (signals : Keyed Scalar Nat) (other : String → Plan) (entry : Value) : ActionHandler :=
  fun arguments site =>
    .record (.list [.text "action", entry.field "name", .mapping arguments, site.event, site.root])
      (plan signals other entry (.mapping arguments) site)

def respond (name : String) (source : Value) (callbacks : FetchCallbacks) : Plan :=
  let finish : Plan := .ofValue (source.field "returns")
  let call := fun (continuation : Nat) (next : Plan) =>
    Plan.resume continuation .null (source.field "payload") next
  match source.fieldText "mode" with
  | "success" => call callbacks.onSuccess finish
  | "error" => call callbacks.onError finish
  | "message" => call callbacks.onMessage finish
  | "fail" => failing "fetch failed"
  | "async_success" => deferred (.text name) (call callbacks.onSuccess .done)
  | "async_fail" => deferred (.text name) (failing "fetch failed later")
  | _ => finish

def fetch (host : Nat) (name : String) (source : Value) (inputs : Entries)
    (callbacks : FetchCallbacks) : Plan :=
  let key := (fetchSpace host, Scalar.text name)
  let noted := Value.list
      [.ofNat callbacks.onSuccess, .ofNat callbacks.onError, .ofNat callbacks.onMessage]
  .record (.list [.text "fetch", .text name, .mapping inputs]) <|
    .lookUp key fun before =>
      .remember key (match before with
        | .list calls => .list (calls ++ [noted])
        | _ => .list [noted]) (respond name source callbacks)

def recording (label : String) (inputs : List Value) (next : Plan) : Plan :=
  .record (.list (.text label :: inputs)) next

/-- Host code that records its calls, and for `fail` also fails. -/
def recorder {α : Type} (source : Value) (label : String) (first : α → Value)
    (input : α) (content : Value) :
    Plan :=
  recording label [first input, content]
    (if source.same (.text "fail") then failing (label ++ " failed") else .done)

/-- Host code that documents may ask for; an unfilled field asks for none. -/
def recorder? {α : Type} (source : Value) (label : String) (first : α → Value) :
    Option (α → Value → Plan) :=
  if source.isFilled then some (recorder source label first) else none

/-- As `recorder?`, where a document has to ask in one of three ways: null, true or `fail`. -/
def strictRecorder? {α : Type} (source : Value) (label : String) (first : α → Value) :
    Except Failure (Option (α → Value → Plan)) := do
  let key ← source.toKey
  if [.null, .bool true, .text "fail"].contains key then return recorder? source label first
  else .error (.mishap (.missingKey source))

def cancel (name : String) : Value → Option Plan
  | .text "fail" => some (recording "cancel" [.text name] (failing "cancel failed"))
  | .text "not_callable" => none
  | source => if source.isFilled then some (recording "cancel" [.text name] .done) else none

def api (host : Nat) (name : String) (source : Value) : Api :=
  { fetch := fetch host name source, cancel := cancel name (source.field "cancel") }

end Stock
end Execute
end Interplay
