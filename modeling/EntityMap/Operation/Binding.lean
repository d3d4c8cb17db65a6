import EntityMap.Record

/-!
# Binding

An argument of a call becomes a parameter of a statement: `bindArgument` for a value that is
compared, which must be a text or a number, and `bindValue` for a value that is written, which
may also be absent, bytes or a moment.
-/

namespace EntityMap

/-- The parameter for a value that is compared. -/
def bindArgument (rs : Records) : Value → Except Failure Value
  | .bool b => .ok (.int (if b then 1 else 0))
  | .int i => .ok (.int i)
  | .real x => .ok (.real x)
  | .text s => .ok (.text s)
  | v => .error (.unsupportedArgument (rs.typeName v))

/-- The parameters for values that are compared, in order. -/
def bindArguments (rs : Records) (vs : List Value) : Except Failure (List Value) :=
  vs.mapM (bindArgument rs)

/-- The parameter for a value that is written. -/
def bindValue (rs : Records) : Value → Except Failure Value
  | .null => .ok .null
  | .moment t => (Value.toStored (.moment t)).mapError .conversion
  | .bytes bs => .ok (.bytes bs)
  | .buffer bs => .ok (.bytes bs)
  | v => bindArgument rs v

end EntityMap
