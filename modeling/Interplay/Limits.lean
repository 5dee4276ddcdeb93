import Interplay.Run
import Interplay.Value.Entries
import Interplay.Value.Order

/-!
Safety ceilings, grouped by subsystem.

A table is changed only at names it has; a change that names an unknown category or ceiling changes
nothing.  A null ceiling is no ceiling.  A ceiling may be of any type: it is only when something is
compared with it that the types have to fit.

A table is a record, and every record answers to more names than those of its fields.  Such a name
is no unknown category, but it cannot be changed either.
-/

namespace Interplay

namespace Record

abbrev Listing := List (String × List String)

def typeIn? (listing : Listing) (name : String) : Option String :=
  (listing.find? fun row => row.2.contains name).map Prod.fst

def builtin : String := "builtin_function_or_method"

def wrapper : String := "method-wrapper"

def common : Listing := [
  ("type", ["__class__"]),
  (builtin, ["__dir__", "__format__", "__getstate__", "__init_subclass__", "__new__",
    "__reduce__", "__reduce_ex__", "__sizeof__", "__subclasshook__"]),
  (wrapper, ["__delattr__", "__eq__", "__ge__", "__getattribute__", "__gt__",
    "__hash__", "__init__", "__le__", "__lt__", "__ne__", "__repr__", "__setattr__", "__str__"])]

def members : Listing := [
  ("dict", ["__annotations__", "__dataclass_fields__", "__dict__"]),
  ("method", ["__delattr__", "__eq__", "__hash__", "__init__", "__repr__", "__setattr__"]),
  ("str", ["__doc__", "__module__"]),
  ("tuple", ["__match_args__"]),
  ("_DataclassParams", ["__dataclass_params__"])] ++ common

def typeOf? (name : String) : Option String :=
  typeIn? members name

end Record

structure LimitGroup where
  label : String
  ceilings : Table Value

/-- A limits table: categories in order. -/
structure Limits where
  groups : Table LimitGroup

/-- New ceilings, category by category; where the ceilings of a category are malformed, the failure
stands in their place. -/
abbrev LimitChanges := Table (Except Failure (Table Value))

namespace LimitGroup

def ceiling? (name : String) (group : LimitGroup) : Option Value :=
  Keyed.find? name group.ceilings

def set (name : String) (ceiling : Value) (group : LimitGroup) : LimitGroup :=
  { group with ceilings := Keyed.insert name ceiling group.ceilings }

/-- Why a name cannot be changed: the group does not have it, or the name stands for the group
itself. -/
def refusal? (group : LimitGroup) (name : String) : Option Mishap :=
  let maker := group.label ++ ".__init__"
  if name = "self" then some (.repeatedArgument maker name)
  else if (group.ceiling? name).isNone then some (.unexpectedArgument maker name)
  else none

/-- All changes at once, or the first name that cannot be changed. -/
def update (changes : Table Value) (group : LimitGroup) : Except Failure LimitGroup :=
  match changes.findSome? fun change => group.refusal? change.1 with
  | some mishap => .error (.mishap mishap)
  | none => .ok (changes.foldl (fun result change => result.set change.1 change.2) group)

end LimitGroup

namespace Limits

def group? (category : String) (limits : Limits) : Option LimitGroup :=
  Keyed.find? category limits.groups

def setGroup (category : String) (group : LimitGroup) (limits : Limits) : Limits :=
  { groups := Keyed.insert category group limits.groups }

def ceiling? (category name : String) (limits : Limits) : Option Value :=
  match limits.group? category with
  | none => none
  | some group => group.ceiling? name

/-- The ceiling of a name; null if the table has none. -/
def ceiling (category name : String) (limits : Limits) : Value :=
  (limits.ceiling? category name).getD .null

/-- Why a category that the table does not have cannot be changed. -/
def refusal (category : String) (changes : Except Failure (Table Value)) : Failure :=
  match Record.typeOf? category, changes with
  | none, _ => .mishap (.unknownCategory category)
  | some _, .error failure => failure
  | some _, .ok _ => .mishap .notReplaceable

/-- Applies all changes, each to the table it was given; on a failure nothing is changed. -/
def update : LimitChanges → Limits → Except Failure Limits
  | [], limits => .ok limits
  | (category, changes) :: rest, limits =>
    match limits.group? category with
    | none => .error (refusal category changes)
    | some group =>
      match changes with
      | .error failure => .error failure
      | .ok ceilings =>
        match group.update ceilings with
        | .error failure => .error failure
        | .ok changed => update rest (limits.setGroup category changed)

/-- Fails if a value is strictly above the ceiling of a name. -/
def checkAgainst (category name value ceiling : Value) : Except Failure Unit :=
  if ceiling.isNull then .ok ()
  else
    match value.compare .above ceiling with
    | .error failure => .error failure
    | .ok true =>
      if [category, name, value, ceiling].all Value.isWritable then
        .error (.fault (Fault.limit category name value ceiling))
      else
        .error (.mishap .notWritable)
    | .ok false => .ok ()

def fits (value ceiling : Value) : Except Failure Bool :=
  if ceiling.isNull then .ok true else value.compare .atMost ceiling

def check (category name : String) (value : Value) (limits : Limits) : Except Failure Unit :=
  checkAgainst (.text category) (.text name) value (limits.ceiling category name)

def isWithin (category name : String) (value : Value) (limits : Limits) : Except Failure Bool :=
  fits value (limits.ceiling category name)

def standard : Limits where
  groups := [
    ("component", { label := "ComponentLimits", ceilings := [
      ("max_depth", .int 50), ("max_nodes", .int 10000), ("max_attributes", .int 100),
      ("max_variables", .int 100), ("max_formulas", .int 200), ("max_apis", .int 50),
      ("max_workflows", .int 50)] }),
    ("formula", { label := "FormulaLimits", ceilings := [
      ("max_depth", .int 256), ("max_evaluation_time", .int 1000), ("max_arguments", .int 50),
      ("max_path_length", .int 50), ("max_switch_cases", .int 10), ("max_logical_args", .int 50)]
      }),
    ("action", { label := "ActionLimits", ceilings := [
      ("max_depth", .int 100), ("max_execution_time", .int 5000),
      ("max_actions_per_list", .int 100),
      ("max_switch_cases", .int 20), ("max_callback_actions", .int 20),
      ("max_workflow_recursion", .int 1)] }),
    ("package", { label := "PackageLimits", ceilings := [
      ("max_depth", .int 10), ("max_packages", .int 100), ("max_package_components", .int 1000)] }),
    ("error", { label := "ErrorLimits", ceilings := [
      ("max_errors", .int 100), ("max_message_length", .int 10000), ("max_stack_depth", .int 50)]
      }),
    ("render", { label := "RenderLimits", ceilings := [
      ("max_render_time", .int 100), ("max_updates_per_frame", .int 1000),
      ("max_subscribers", .int 10000)] })]

/-- Runs a body under changed ceilings; the table from before comes back however the body ends.  If
a change is refused, the body does not run. -/
def overriding {α : Type} (changes : LimitChanges) (body : Run Limits α) : Run Limits α := do
  let previous ← Run.get
  Run.update (update changes)
  Run.ensuring (fun _ => previous) body

end Limits
end Interplay
