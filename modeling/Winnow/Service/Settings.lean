/-
Settings — the configuration of the service, read from the environment.
-/
import Winnow.Number.Numeral
import Winnow.Text.Pieces
import Winnow.Text.Upper

namespace Winnow

/-- The variables of an environment. -/
abbrev Environment := List (String × String)

/-- The configuration of the service. -/
structure Settings where
  apiKey : String
  baseUrl : String
  port : Int
  defaultFormId : Option String
  timeout : Binary64
  corsOrigins : List String
  logLevel : String

/-- Why the environment gives no settings. -/
inductive SettingsFault where
  /-- The key for the service of forms is missing or empty. -/
  | missingKey
  | badPort
  | badTimeout
deriving DecidableEq, Repr

/-- The message about a fault. -/
def SettingsFault.message : SettingsFault → String
  | .missingKey => "API_KEY must be set"
  | .badPort => "PORT must be an integer"
  | .badTimeout => "FILLOUT_TIMEOUT_SECONDS must be a number"

namespace Settings

/-- The names of the variables that are read. -/
def variableNames : List String :=
  ["API_KEY", "FILLOUT_BASE_URL", "PORT", "FORM_ID", "FILLOUT_TIMEOUT_SECONDS",
    "CORS_ALLOW_ORIGINS", "LOG_LEVEL"]

/-- The address of the service of forms. -/
def defaultBaseUrl : String := "https://api.fillout.com"

/-- The trimmed items between commas that are not empty. -/
def splitOrigins (text : String) : List String :=
  (((Text.pieces ',' text.toList).map Text.strip).filter (!·.isEmpty)).map String.ofList

/-- The settings of an environment; all but the key have defaults. -/
def ofEnvironment (env : Environment) : Except SettingsFault Settings := do
  let value (name default : String) : String := (env.lookup name).getD default
  let apiKey := value "API_KEY" ""
  if apiKey.isEmpty then throw .missingKey
  let some port := Numeral.readInteger? (value "PORT" "3000").toList | throw .badPort
  let some timeout := Numeral.readReal? (value "FILLOUT_TIMEOUT_SECONDS" "10").toList
    | throw .badTimeout
  return {
    apiKey := apiKey
    baseUrl := value "FILLOUT_BASE_URL" defaultBaseUrl
    port := port
    defaultFormId := (env.lookup "FORM_ID").filter (!·.isEmpty)
    timeout := timeout
    corsOrigins := splitOrigins (value "CORS_ALLOW_ORIGINS" "")
    logLevel := String.ofList (Text.upper (value "LOG_LEVEL" "INFO").toList) }

end Settings

end Winnow
