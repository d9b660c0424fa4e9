import TypedVars.Config.Basic
import TypedVars.Config.Toml.Reader

/-!
# Configurations in TOML

A configuration is taken from a document by the names of its fields; other names do not matter, and
what is left out has its default.  A group of fields can also be given by position, as the elements
of an array.
-/

namespace TypedVars

namespace Toml

/-- A group of fields: by name, or by position. -/
inductive Group where
  | named (entries : Entries)
  | placed (elements : List Toml)

namespace Group

/-- The value of a field, by its name and its position. -/
def field? (g : Group) (name : String) (position : Nat) : Option Toml :=
  match g with
  | named entries => entries.lookup name
  | placed elements => elements[position]?

/-- A field that is read, or has its default when it is left out. -/
def read? {α : Type} (g : Group) (name : String) (position : Nat) (missing : α)
    (ofToml? : Toml → Option α) : Option α :=
  match g.field? name position with
  | none => some missing
  | some v => ofToml? v

end Group

/-- The group that a value is.  A date has no fields of these names, and so it is an empty group. -/
def group? : Toml → Option Group
  | table _ es => some (.named es)
  | array vs => some (.placed vs)
  | tables ts => some (.placed (ts.map (table .header)))
  | datetime _ => some (.named [])
  | _ => none

/-- The text of a string. -/
def text? : Toml → Option String
  | string s => some s
  | _ => none

/-- The number of an integer that is not negative. -/
def natural? : Toml → Option Nat
  | integer i => if 0 ≤ i then some i.toNat else none
  | _ => none

/-- Whether a value is a composite one without content. -/
def isHollow : Toml → Bool
  | table _ [] | array [] | tables [] => true
  | _ => false

end Toml

/-- The kind of backend of a name. -/
def BackendKind.ofName? : String → Option BackendKind
  | "memory" => some .memory
  | "file" => some .file
  | _ => none

/-- The kind of backend of a value: its name, or a table whose only key is the name. -/
def BackendKind.ofToml? : Toml → Option BackendKind
  | .string name => ofName? name
  | .table _ [(name, v)] => if v.isHollow then ofName? name else none
  | _ => none

/-- How a store is set up, of a value. -/
def StoreConfig.ofToml? (v : Toml) : Option StoreConfig := do
  let g ← v.group?
  let base : StoreConfig := {}
  let backend ← g.read? "backend" 0 base.backend BackendKind.ofToml?
  let filePath ← g.read? "file_path" 1 base.filePath Toml.text?
  let lockTimeoutMs ← g.read? "lock_timeout_ms" 2 base.lockTimeoutMs Toml.natural?
  some { backend, filePath, lockTimeoutMs }

/-- How the log is written, of a value. -/
def LoggingConfig.ofToml? (v : Toml) : Option LoggingConfig := do
  let g ← v.group?
  let base : LoggingConfig := {}
  some { format := ← g.read? "format" 0 base.format Toml.text? }

namespace AppConfig

/-- The configuration of a document. -/
def ofEntries? (es : Toml.Entries) : Option AppConfig := do
  let g := Toml.Group.named es
  let store ← g.read? "store" 0 {} StoreConfig.ofToml?
  let logging ← g.read? "logging" 1 {} LoggingConfig.ofToml?
  some { store, logging }

/-- The configuration of a text. -/
def ofText (s : String) : Except ConfigError AppConfig :=
  match (Toml.parse? s).bind ofEntries? with
  | some c => .ok c
  | none => .error .malformed

/-- The configuration of a file, if there is one. -/
def ofFile (bytes : Option ByteArray) : Except ConfigError AppConfig :=
  match bytes.bind String.fromUTF8? with
  | some s => ofText s
  | none => .error .unreadable

end AppConfig

end TypedVars
