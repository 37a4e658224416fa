import Andromeda.Database.Session

/-! A concrete class, codec and environment, for single sessions. -/

set_option autoImplicit false

namespace Andromeda.Database.Scenario

/-- Two JSON values: one can be dumped, the other holds text that is not UTF-8. -/
inductive Json where
  | five
  | invalidText
  deriving DecidableEq

def codec : Codec Int Json where
  stored value := value
  toText
    | .null => ""
    | .text data => data
    | .integer value => toString value
    | .real value => toString value ++ ".0"
  toInteger
    | .integer value => value
    | _ => 0
  toReal
    | .real value => value
    | _ => 0
  add
    | .integer value, delta => .integer (value + delta)
    | _, _ => .null
  dump
    | .five => some "5"
    | .invalidText => none
  parse data := if data = "5" then some .five else none
  finite _ := true

/-- Nothing throws. -/
def env : Env Int Json := ⟨fun _ _ => false⟩

/-- A class with a field of each kind. -/
def settings : ObjectClass Int Json where
  name := "settings"
  fields := [("count", .counter), ("limit", .nullScalar .integer none), ("value", .json none)]
  distinct := by decide

/-- An empty database after some operations. -/
def after (ops : List (Op Int Json)) : World Int Json :=
  (ops.map fun op => (op, env)).foldl (step codec) (World.opened fun _ => none)

/-- The exception and whether the transaction is still open, if a run threw. -/
def thrown (result : EStateM.Result Exception (World Int Json) Unit) : Option (Exception × Bool) :=
  match result with
  | .ok _ _ => none
  | .error exception final => some (exception, final.begun.isSome)

theorem of_thrown {result : EStateM.Result Exception (World Int Json) Unit}
    {exception : Exception} {isOpen : Bool} (ran : thrown result = some (exception, isOpen)) :
    ∃ final, result = .error exception final ∧ final.begun.isSome = isOpen := by
  cases result with
  | ok value final => cases ran
  | error threw final =>
      cases ran
      exact ⟨final, rfl, rfl⟩

/-- Inserts throw. -/
def noInserts : Env Int Json where
  fault _
    | .insert _ _ => true
    | _ => false

/-- The column and the field of the counter, after a run that returned. -/
def counter (result : EStateM.Result Exception (World Int Json) Unit) :
    Option (Value Int × Int) :=
  match result with
  | .error _ _ => none
  | .ok _ final =>
    match final.rows ("settings", "a"), final.objects 0 with
    | some row, some object =>
      match object.fields with
      | ("count", .counter field) :: _ => some (row "count", field.value)
      | _ => none
    | _, _ => none

end Andromeda.Database.Scenario
