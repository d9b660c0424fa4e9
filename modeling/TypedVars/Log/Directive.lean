import TypedVars.Log.Basic
import TypedVars.Log.Pattern
import TypedVars.Number.Literal
import TypedVars.Text.Encoded
import TypedVars.Text.Pieces

/-!
# Directives of log filters

A directive sets the least severe level that is written, for the parts of the program whose name
begins with its target, or for all parts when it has no target.  In brackets it can restrict itself
to entries that have a field, or to what happens inside of a span.  The program enters no spans, so
that directives of the last kind change nothing.

The places of the parts of a directive are counted from its first character that is not white space,
but the parts are cut out of the text by counting from its very beginning.  So a directive behind
white space never has a level that can be read or a target that anything has; and its cuts may fall
inside of a character, which is told apart from a directive that is wrong.
-/

namespace TypedVars

/-- The entries that are written: none, or those of a level and of all more severe ones. -/
abbrev Threshold := Option Level

namespace Threshold

/-- The threshold of a number; the numbers begin at nothing and end at everything. -/
def ofNat? : Nat → Option Threshold
  | 0 => some none
  | 1 => some (some .error)
  | 2 => some (some .warn)
  | 3 => some (some .info)
  | 4 => some (some .debug)
  | 5 => some (some .trace)
  | _ => none

/-- The threshold that decimal digits stand for, with an optional plus sign before them. -/
def ofNumeral? (cs : List Char) : Option Threshold :=
  let digits := match cs with
    | '+' :: ds => ds
    | _ => cs
  if !digits.isEmpty && digits.all Char.isDigit then ofNat? (decimalValue digits) else none

/-- The threshold that a text names: a word in any case, or a number. -/
def ofChars? (cs : List Char) : Option Threshold :=
  match String.ofList (cs.map Char.toLower) with
  | "off" => some none
  | "error" => some (some .error)
  | "warn" => some (some .warn)
  | "info" => some (some .info)
  | "debug" => some (some .debug)
  | "trace" => some (some .trace)
  | _ => ofNumeral? cs

/-- The threshold after an equals sign, where nothing stands for everything. -/
def ofLevelText? (cs : List Char) : Option Threshold :=
  if cs.isEmpty then some (some .trace) else ofChars? cs

end Threshold

/-- When a directive is in force. -/
inductive Condition where
  /-- For every entry. -/
  | always
  /-- For the entries that have a field of this name. -/
  | field (name : List Char)
  /-- For what happens inside of some span. -/
  | span
  deriving DecidableEq

namespace Condition

/-- The condition in braces: the name of a field, with or without a value.  The values that a field
must have belong to spans. -/
def ofFieldText? (text : List Char) : Option Condition :=
  match pieces '=' text with
  | [name] => if name.isEmpty then none else some (field name)
  | _ :: value :: _ =>
    if (Double.ofChars? value).isSome || Pattern.isWellFormed value then some span else none
  | [] => none

/-- Whether a condition holds for an entry with these fields. -/
def holds (fieldNames : List String) : Condition → Bool
  | always => true
  | field name => fieldNames.contains (String.ofList name)
  | span => false

end Condition

/-- Why a directive cannot be read. -/
inductive Misread where
  /-- It is not well formed. -/
  | malformed
  /-- A cut falls inside of a character. -/
  | splitChar
  deriving DecidableEq

/-- What is written for some of the entries. -/
structure Directive where
  target : Option (List Char)
  condition : Condition
  threshold : Threshold
  deriving DecidableEq

namespace Directive

/-- The value that reading must find for a directive to be well formed. -/
def required {α : Type} : Option α → Except Misread α
  | some a => .ok a
  | none => .error .malformed

/-- A part of a text, between two places that must not be inside of characters. -/
def cut (text : List Char) (start stop : Nat) : Except Misread (List Char) :=
  match sliceBytes? start stop text with
  | some part => .ok part
  | none => .error .splitChar

/-- The characters that a directive can begin with. -/
def isFirstChar (c : Char) : Bool := isLetterOrNumber c || ['[', '-', ':', '_'].contains c

/-- Reads the level of a directive, from the rest after its target and condition at some place. -/
def readLevel (text : List Char) (place : Nat) : List Char → Except Misread Threshold
  | [] => .ok (some .trace)
  | '=' :: _ => do
    required (Threshold.ofLevelText? (← cut text (place + 1) (encodedLength text)))
  | _ => .error .malformed

/-- Reads the condition of a directive after its opening bracket at some place: the name of a span,
then possibly a field in braces.  The place after it and the rest come with it. -/
def readCondition (text : List Char) (place : Nat) (cs : List Char) :
    Except Misread (Condition × Nat × List Char) := do
  let name := cs.takeWhile fun c => c != ']' && c != '{'
  let nameEnd := place + encodedLength name
  match cs.drop name.length with
  | ']' :: r =>
    let _ ← cut text place nameEnd
    .ok (.span, nameEnd + 1, r)
  | _ :: r =>
    let _ ← cut text place nameEnd
    let field := r.takeWhile (· != '}')
    let fieldEnd := nameEnd + 1 + encodedLength field
    match r.drop field.length with
    | _ :: r =>
      let condition ← required (Condition.ofFieldText? (← cut text (nameEnd + 1) fieldEnd))
      match r with
      | ']' :: r => .ok (if name.isEmpty then condition else .span, fieldEnd + 2, r)
      | _ => .error .malformed
    | [] => .error .malformed
  | [] => .error .malformed

/-- Reads a directive.  A word alone is a threshold, if it names one; every other word is a target,
which has every level unless a level is given. -/
def ofChars (text : List Char) : Except Misread Directive := do
  let body := trim text
  if !body.head?.any isFirstChar then .error .malformed
  let word := body.takeWhile fun c => c != '=' && c != '['
  let wordEnd := encodedLength word
  match body.drop word.length with
  | [] =>
    match Threshold.ofChars? text with
    | some threshold => .ok ⟨none, .always, threshold⟩
    | none => .ok ⟨some text, .always, some .trace⟩
  | '[' :: r =>
    let target ← if word.isEmpty then .ok none else (cut text 0 wordEnd).map some
    let (condition, place, r) ← readCondition text (wordEnd + 1) r
    .ok ⟨target, condition, ← readLevel text place r⟩
  | r =>
    let target ← cut text 0 wordEnd
    .ok ⟨some target, .always, ← readLevel text wordEnd r⟩

/-- Whether a directive is about the entries of a part of the program that have these fields. -/
def covers (d : Directive) (origin : List Char) (fieldNames : List String) : Bool :=
  d.target.all (·.isPrefixOf origin) && d.condition.holds fieldNames

/-- Longer targets decide over shorter ones, and any over none. -/
def weight (d : Directive) : Nat :=
  match d.target with
  | none => 0
  | some target => target.length + 1

/-- Whether a directive decides instead of another one that covers the same entry. -/
def overrules (a b : Directive) : Bool :=
  if a.weight = b.weight then
    match a.condition, b.condition with
    | .field x, .field y => y < x
    | .field _, _ => true
    | _, _ => false
  else b.weight < a.weight

end Directive

end TypedVars
