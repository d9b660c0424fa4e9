import TypedVars.Backend.Basic
import TypedVars.Text.Blank
import TypedVars.Text.Lowercase
import TypedVars.Text.Quoted

/-!
# Configuration

A configuration says which backend a store has, how long it waits for locks and in which format the
log is written.  Before use it is brought into normal form: texts lose their outer white space, a
file path that is left out is taken from the environment, and a blank format is the default one.  A
configuration without a normal form is rejected, for its path first and for its format second.
-/

namespace TypedVars

/-- How a store is set up. -/
structure StoreConfig where
  backend : BackendKind := .memory
  /-- The path of the document. -/
  filePath : String := ""
  /-- The longest wait for a lock in milliseconds; zero stands for no bound. -/
  lockTimeoutMs : Nat := 5000
  deriving DecidableEq, Repr

/-- How the log is written. -/
structure LoggingConfig where
  format : String := "compact"
  deriving DecidableEq, Repr

/-- The whole configuration. -/
structure AppConfig where
  store : StoreConfig := {}
  logging : LoggingConfig := {}
  deriving DecidableEq, Repr

/-- Why there is no usable configuration. -/
inductive ConfigError where
  /-- The file cannot be read as text. -/
  | unreadable
  /-- The text is not a configuration. -/
  | malformed
  /-- The backend needs a file path and there is none. -/
  | pathMissing
  /-- There is no such log format. -/
  | formatUnknown (format : String)
  deriving DecidableEq, Repr

namespace ConfigError

/-- The message of a configuration that is rejected after it was read. -/
def message? : ConfigError → Option String
  | unreadable | malformed => none
  | pathMissing =>
    some "store.file_path is empty; set it in config.toml or via STORE_FILE_PATH"
  | formatUnknown format =>
    some ("logging.format must be \"compact\" or \"json\", got " ++ quote format)

end ConfigError

/-- The variables of the environment with their values. -/
abbrev Environment := List (String × String)

namespace Environment

/-- The value of a variable that is set. -/
def get? (env : Environment) (name : String) : Option String := env.lookup name

/-- The value that the environment has for any text.  The environment is kept as lines `NAME=value`,
and the value of a text is what follows the text and an equals sign in the first line that begins
so; the text may itself reach beyond the equals sign of a line. -/
def lineValue? (env : Environment) (text : List Char) : Option (List Char) :=
  if text.isEmpty then none
  else env.findSome? fun (name, value) =>
    (text ++ ['=']).isPrefixOf? (name.toList ++ '=' :: value.toList)

/-- Sets a variable unless it is set already. -/
def setDefault (env : Environment) (name value : String) : Environment :=
  if (env.get? name).isSome then env else env ++ [(name, value)]

end Environment

namespace StoreConfig

/-- The bound on the wait for a lock, if there is one. -/
def limit? (c : StoreConfig) : Option Nat :=
  if c.lockTimeoutMs = 0 then none else some c.lockTimeoutMs

/-- The file path without outer white space, from the environment when the configuration has
none. -/
def normalPath (c : StoreConfig) (env : Environment) : String :=
  let path := trimText c.filePath
  if path = "" then trimText ((env.get? "STORE_FILE_PATH").getD "") else path

/-- The normal form, unless a path is missing. -/
def normalize (c : StoreConfig) (env : Environment) : Except ConfigError StoreConfig :=
  let path := c.normalPath env
  if c.backend = .file ∧ path = "" then .error .pathMissing
  else .ok { c with filePath := path }

end StoreConfig

namespace LoggingConfig

/-- The format in lower case without outer white space, or the default one when it is blank. -/
def normalFormat (c : LoggingConfig) : String :=
  let format := lowercase (trimText c.format)
  if format = "" then "compact" else format

/-- The normal form, unless the format is unknown. -/
def normalize (c : LoggingConfig) : Except ConfigError LoggingConfig :=
  let format := c.normalFormat
  if format = "compact" ∨ format = "json" then .ok ⟨format⟩ else .error (.formatUnknown format)

end LoggingConfig

/-- The normal form of a configuration. -/
def AppConfig.normalize (c : AppConfig) (env : Environment) : Except ConfigError AppConfig := do
  let store ← c.store.normalize env
  let logging ← c.logging.normalize
  .ok { store, logging }

end TypedVars
