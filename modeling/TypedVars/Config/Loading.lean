import TypedVars.Config.Dotenv
import TypedVars.Config.Folder
import TypedVars.Config.Settings

/-!
# Loading the configuration

The program finds its configuration in the working directory.  A file `.env` may add variables to
the environment; the variable `CONFIG_PATH` names the configuration file, which is `config.toml`
otherwise.
-/

namespace TypedVars

namespace AppConfig

/-- The environment with the variables of the file `.env`, if there is one. -/
def environmentIn (files : Folder) (env : Environment) : Environment :=
  match files.read? ".env" with
  | some bytes => Dotenv.load bytes env
  | none => env

/-- The normal form of the configuration in a working directory. -/
def load (files : Folder) (env : Environment) : Except ConfigError AppConfig := do
  let env := environmentIn files env
  let c ← ofFile (files.read? ((env.get? "CONFIG_PATH").getD "config.toml"))
  c.normalize env

end AppConfig

end TypedVars
