import TypedVars.Value.Basic

/-!
# Edits

An update replaces the value of a variable by a function of it.  These are some functions that are
useful on their own; each says what becomes of a value and of a missing one.
-/

namespace TypedVars

/-- A change of a value that may be missing. -/
inductive Edit where
  /-- One value or none, whatever was there. -/
  | const (v : Option Value)
  /-- No change. -/
  | identity
  /-- A text after the text of the value. -/
  | append (text : String)
  /-- The word for the type of the value. -/
  | typeName
  /-- A number times a factor. -/
  | scale (factor : Double)
  /-- The opposite of a boolean. -/
  | negate
  deriving DecidableEq

namespace Edit

/-- What an edit makes of a value; a value of the wrong type is removed. -/
def apply : Edit → Option Value → Option Value
  | .const v, _ => v
  | .identity, current => current
  | .append text, current => current.map fun v => .string (v.text ++ text)
  | .typeName, current => some (.string ((current.map Value.typeName).getD "none"))
  | .scale factor, some (.number x) => some (.number (x.mul factor))
  | .negate, some (.boolean b) => some (.boolean (!b))
  | _, _ => none

end Edit

end TypedVars
