import TypedVars.Journal
import TypedVars.Json.Writer
import TypedVars.Log.Filter

/-!
# Log output

The log is written in one of two formats: lines of text, or JSON objects.  The JSON format is taken
only when it is named exactly, and each format has a filter of its own, which the environment can
replace by one that it can read.
-/

namespace TypedVars

/-- The format of the log. -/
inductive LogFormat where
  | compact
  | json
  deriving DecidableEq

namespace LogFormat

/-- The format of a name; unknown names stand for lines of text. -/
def ofName (name : String) : LogFormat := if name = "json" then json else compact

/-- The text of the filter of a format. -/
def filterText : LogFormat → String
  | compact => "info,store=info"
  | json => "info,store::store=debug"

/-- The filter of a format. -/
def standardFilter (format : LogFormat) : LogFilter :=
  match LogFilter.ofText format.filterText with
  | .ok f => f
  | .error _ => []

/-- The filter in use: that of the environment if it is well formed, else that of the format.  A
text that would be cut inside of a character lets nothing be written. -/
def filter (format : LogFormat) (fromEnvironment : Option String) : LogFilter :=
  match fromEnvironment.map LogFilter.ofText with
  | some (.ok f) => f
  | some (.error .splitChar) => []
  | some (.error .malformed) | none => format.standardFilter

end LogFormat

namespace Field

/-- A field on a line of text. -/
def text : Field → String
  | plain s => s
  | quoted s => quote s
  | number i => String.ofList (Json.intChars i)

/-- A field without quotes around it. -/
def bareText : Field → String
  | plain s | quoted s => s
  | number i => String.ofList (Json.intChars i)

/-- A field in a JSON object. -/
def toJson : Field → Json
  | plain s | quoted s => .string s
  | number i => .number (.int i)

end Field

namespace Event

/-- The line of text of an event. -/
def line (e : Event) : String :=
  e.fields.foldl (fun s (name, field) => s ++ " " ++ name ++ "=" ++ field.text)
    (e.level.name ++ " " ++ e.message)

/-- The JSON object of an event. -/
def toJson (e : Event) : Json :=
  .object
    [("level", .string e.level.name),
      ("fields", .object
        (("message", .string e.message) :: e.fields.map fun (name, field) => (name, field.toJson)))]

end Event

/-- What the log says of some events: its lines, as JSON strings or objects. -/
def logOutput (format : LogFormat) (fromEnvironment : Option String) (events : List Event) :
    List Json :=
  let f := format.filter fromEnvironment
  (events.filter fun e => f.passes e.origin e.fieldNames e.level).flatMap fun e =>
    match format with
    | .compact => (pieces '\n' e.line.toList).map fun cs => .string (String.ofList cs)
    | .json => [e.toJson]

end TypedVars
