import TypedVars.Number.Notation

/-!
# JSON values

Values of JSON as the store exchanges them with its callers.  A number keeps the reading of its
literal: an integer of 64 bits, signed or unsigned, stays exact, and every other number is a
double.  The members of an object stand in the order of the text, repeated names included.
-/

namespace TypedVars

/-- A number of JSON. -/
inductive JsonNumber where
  | int (i : Int)
  | double (x : Double)
  deriving DecidableEq

/-- A value of JSON. -/
inductive Json where
  | null
  | bool (b : Bool)
  | number (n : JsonNumber)
  | string (s : String)
  | array (elements : List Json)
  | object (members : List (String × Json))

namespace JsonNumber

/-- The integers that keep their exact value: those of 64 bits, with or without a sign. -/
def holdsInt (i : Int) : Bool := -9223372036854775808 ≤ i && i ≤ 18446744073709551615

/-- The double nearest to the number. -/
def toDouble : JsonNumber → Double
  | .int i => .ofInt i
  | .double x => x

end JsonNumber

namespace Json

/-- The word for the kind of a value. -/
def kind : Json → String
  | .null => "null"
  | .bool _ => "boolean"
  | .number _ => "number"
  | .string _ => "string"
  | .array _ => "array"
  | .object _ => "object"

/-- The value of the last member of a name. -/
def member? (name : String) : Json → Option Json
  | .object members => (members.reverse.find? (·.1 = name)).map (·.2)
  | _ => none

end Json

end TypedVars
