import TypedVars.Value.Basic
import TypedVars.Json.Writer
import TypedVars.Error

/-!
# Typed values and JSON

A value is written to JSON without its tag, since the kind of the JSON value tells the variant
again.  There are two ways back.  `Value.ofJson` goes by the kind of the JSON value and names a kind
that it rejects; `Value.ofUntagged?` tries the variants one after another and takes the first that
reads the value.
-/

namespace TypedVars

namespace Value

/-- The JSON form of a value. -/
def toJson : Value → Json
  | .number x => .number (.double x)
  | .string s => .string s
  | .boolean b => .bool b

/-- The value of a JSON scalar; `null` and the composite kinds are rejected by name. -/
def ofJson : Json → Except StoreError Value
  | .number n => .ok (.number n.toDouble)
  | .string s => .ok (.string s)
  | .bool b => .ok (.boolean b)
  | j => .error (.unsupportedKind j.kind)

/-- The double of a JSON number. -/
def doubleOfJson? : Json → Option Double
  | .number (.int i) => some (.ofInt i)
  | .number (.double x) => some x
  | _ => none

/-- The text of a JSON string. -/
def stringOfJson? : Json → Option String
  | .string s => some s
  | _ => none

/-- The truth value of a JSON boolean. -/
def boolOfJson? : Json → Option Bool
  | .bool b => some b
  | _ => none

/-- The value by the first variant that reads the JSON value: number, string, boolean. -/
def ofUntagged? (j : Json) : Option Value :=
  ((doubleOfJson? j).map .number).or <|
    ((stringOfJson? j).map .string).or <|
      (boolOfJson? j).map .boolean

end Value

end TypedVars
