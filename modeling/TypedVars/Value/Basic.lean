import TypedVars.Number.Notation
import TypedVars.Number.Literal
import TypedVars.Text.Blank

/-!
# Typed values and their stored form

A variable holds a number, a string or a boolean.  Storage keeps text only, so a value is stored as
a tag of two characters followed by a body: `n:` and the text of the number, `s:` and the string
itself, `b:1` or `b:0`.

Reading a stored text has three outcomes.  The empty text means that nothing is stored; a text of
one of the forms above is its value, where the body of a number may have white space around it and
may be any number text; every other text is undecodable.  The tag alone decides the variant, so a
string that looks like a tagged text is still that string.
-/

namespace TypedVars

/-- The value of a variable. -/
inductive Value where
  | number (x : Double)
  | string (s : String)
  | boolean (b : Bool)
  deriving DecidableEq

/-- What a stored text says. -/
inductive Reading where
  /-- Nothing is stored. -/
  | absent
  /-- A value is stored. -/
  | value (v : Value)
  /-- The text is not the stored form of a value. -/
  | undecodable
  deriving DecidableEq

namespace Value

/-- The stored form of a value. -/
def encode : Value → String
  | .number x => "n:" ++ x.text
  | .string s => "s:" ++ s
  | .boolean b => if b then "b:1" else "b:0"

/-- What the characters of a stored text say. -/
def readChars : List Char → Reading
  | [] => .absent
  | 'n' :: ':' :: body =>
    match Double.ofChars? (trim body) with
    | some x => .value (.number x)
    | none => .undecodable
  | 's' :: ':' :: body => .value (.string (String.ofList body))
  | ['b', ':', '1'] => .value (.boolean true)
  | ['b', ':', '0'] => .value (.boolean false)
  | _ => .undecodable

/-- What a stored text says. -/
def decode (raw : String) : Reading := readChars raw.toList

/-- A value as it is shown: the text of a number, the string itself, `true` or `false`. -/
def text : Value → String
  | .number x => x.text
  | .string s => s
  | .boolean b => if b then "true" else "false"

/-- The word for the type of a value. -/
def typeName : Value → String
  | .number _ => "number"
  | .string _ => "string"
  | .boolean _ => "boolean"

/-- The number, of a number. -/
def asNumber? : Value → Option Double
  | .number x => some x
  | _ => none

end Value

namespace Reading

/-- The value, when there is one. -/
def value? : Reading → Option Value
  | .value v => some v
  | _ => none

end Reading

end TypedVars
