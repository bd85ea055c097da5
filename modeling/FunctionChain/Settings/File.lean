import FunctionChain.Files.Action
import FunctionChain.Settings.EnvFile
import FunctionChain.Settings.Hcl.Document
import FunctionChain.Settings.IniFile
import FunctionChain.Settings.JsonFile
import FunctionChain.Settings.PropertiesFile
import FunctionChain.Settings.Toml.Document
import FunctionChain.Settings.Yaml.Document

/-!
# Configuration files

The format of a configuration file is told by the ending of its name.
-/

namespace FunctionChain

namespace Settings

/-- The formats of configuration files. -/
inductive Format where
  | json
  | toml
  | yaml
  | hcl
  /-- Lines of properties, with nested names. -/
  | properties
  /-- Lines of assignments. -/
  | env
  /-- Lines in sections. -/
  | ini
deriving Repr, DecidableEq

/-- The format that an ending of a name stands for. -/
def Format.ofEnding? (ending : Bytes) : Option Format :=
  [(bytes "json", .json), (bytes "toml", .toml), (bytes "yaml", .yaml), (bytes "yml", .yaml),
    (bytes "properties", .properties), (bytes "props", .properties), (bytes "prop", .properties),
    (bytes "hcl", .hcl),
    (bytes "dotenv", .env), (bytes "env", .env), (bytes "ini", .ini)].lookup ending

/-- Read a configuration of a format, or say what is wrong with it. Some formats mention variables of the
environment. -/
def Format.read (format : Format) (environment : List (Bytes × Bytes)) (text : Bytes) :
    Except Bytes Table :=
  match format with
  | .json => (JsonFile.read text).mapError (·.message)
  | .toml => (Toml.read text).mapError (·.message)
  | .yaml => (Yaml.read text).mapError (·.message)
  | .hcl => Hcl.read text
  | .properties => (PropertiesFile.read environment text).mapError (·.message)
  | .env => (EnvFile.read environment text).mapError (·.message)
  | .ini => (IniFile.read text).mapError (·.message)

/-- Read a configuration file. -/
def readFile (environment : List (Bytes × Bytes)) (path : Bytes) : Files.Action Table := do
  let ending := Path.extension path
  match Format.ofEnding? ending with
  | none => throw (.plain (bytes "Unsupported Config Type " ++ Quoted.quote ending))
  | some format =>
    let text ← Files.contents path
    match format.read environment text with
    | .ok table => return table
    | .error message => throw (.plain (bytes "While parsing config: " ++ message))

end Settings

end FunctionChain
