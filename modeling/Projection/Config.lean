import Projection.EnvFile.Assignment
import Projection.Failure
import Projection.Files
import Projection.Json.Writer
import Projection.Token
import Projection.Toml.Document

set_option autoImplicit false

namespace Projection

structure Config where
  logFilter : String := "gadgetry=info,gadgetry_core=info"
  data : Option Path := none
  caseSensitive : Bool := false
  pretty : Bool := false
  deriving DecidableEq, Repr

namespace Toml

def string? : Toml → Option String
  | string value => some value
  | _ => none

def path? (value : Toml) : Option Path := value.string?.map RawText.ofString

def bool? : Toml → Option Bool
  | bool value => some value
  | _ => none

def setting? {α : Type} (entries : List (String × Toml)) (name : String) (missing : α)
    (read : Toml → Option α) : Option α :=
  match entries.lookup name with
  | none => some missing
  | some value => read value

/-- A flag alone in a table. A list may stand for the table, with the flag as its first item, and a
moment for an empty one. -/
def flagIn? (name : String) : Toml → Option Bool
  | table entries => setting? entries name false bool?
  | array [] | moment _ => some false
  | array (flag :: _) => flag.bool?
  | _ => none

end Toml

namespace Config

def keywords (config : Config) : KeywordRule := ⟨config.caseSensitive⟩

def style (config : Config) : Json.Style := if config.pretty then .pretty else .compact

def ofToml? (entries : List (String × Toml)) : Option Config := do
  let defaults : Config := {}
  let logFilter ← Toml.setting? entries "log_filter" defaults.logFilter Toml.string?
  let data ← Toml.setting? entries "data" defaults.data fun value => value.path?.map some
  let caseSensitive ←
    Toml.setting? entries "lexer" defaults.caseSensitive (Toml.flagIn? "case_sensitive")
  let pretty ← Toml.setting? entries "output" defaults.pretty (Toml.flagIn? "pretty")
  return { logFilter, data, caseSensitive, pretty }

def ofText? (text : String) : Option Config := (Toml.ofText text).bind ofToml?

def relativeTo (directory : Path) (config : Config) : Config :=
  { config with data := config.data.map directory.join }

def ofDirectory (files : Files) (directory : Path) : Except Failure Config :=
  let path := directory.join "gadgetry.toml"
  match files path, files.text? path with
  | none, _ => .ok {}
  | some _, none => .error .unreadable
  | some _, some text =>
    match ofText? text with
    | none => .error .config
    | some config => .ok (config.relativeTo directory)

def flagOfText? (text : String) : Option Bool :=
  let word := String.ofList ((Text.trim text.toList).map Char.toLower)
  if word ∈ ["1", "true", "yes", "on"] then some true
  else if word ∈ ["0", "false", "no", "off"] then some false
  else none

def textIn? (environment : Environment) (name : String) : Option String :=
  (environment.text? name).filter (!·.isEmpty)

def flagIn? (environment : Environment) (name : String) : Option Bool :=
  (environment.text? name).bind flagOfText?

def overrideBy (config : Config) (environment : Environment) (directory : Path) : Config where
  logFilter := (textIn? environment "GADGETRY_LOG").getD config.logFilter
  data := ((textIn? environment "GADGETRY_DATA").map fun path =>
    directory.join (RawText.ofString path)).or config.data
  caseSensitive := (flagIn? environment "GADGETRY_CASE_SENSITIVE").getD config.caseSensitive
  pretty := (flagIn? environment "GADGETRY_PRETTY").getD config.pretty

def environmentIn (files : Files) (environment : Environment) (directory : Path) :
    Except Failure Environment :=
  match files.bytes? (directory.join ".env") with
  | none => .ok environment
  | some bytes =>
    match EnvFile.assign? environment bytes with
    | none => .error .environment
    | some assigned => .ok assigned

def paths (directory : Path) : List Path :=
  [directory.join ".env", directory.join "gadgetry.toml"]

def variableNames (files : Files) (directory : Path) : List String :=
  ["GADGETRY_LOG", "GADGETRY_DATA", "GADGETRY_CASE_SENSITIVE", "GADGETRY_PRETTY"] ++
    match files.bytes? (directory.join ".env") with
    | some bytes => EnvFile.mentioned bytes
    | none => []

def load (files : Files) (environment : Environment) (directory : Path) :
    Except Failure Config := do
  let environment ← environmentIn files environment directory
  let config ← ofDirectory files directory
  return config.overrideBy environment directory

end Config

end Projection
