import MarkupLint.Value.Display

/-!
Why a configuration cannot be loaded.
-/
namespace MarkupLint

inductive ConfigError where
  | unreadable (path detail : String)
  | notAMapping (path kind : String)
  | malformedOverride (name : String)
  | blockedOverride (path : List String)
  | invalid (place : List Scalar) (problem : String)
  deriving DecidableEq, Repr

/-- What every variable that overrides a setting begins with. -/
def overridePrefix : String := "TSXLINT_"

namespace ConfigError

/-- A place in the configuration, with dots between its parts. -/
def placeText (place : List Scalar) : String :=
  let text := ".".intercalate (place.map Scalar.display)
  if text.isEmpty then "<root>" else text

def message : ConfigError → String
  | unreadable path detail => "Cannot read config file " ++ path ++ ": " ++ detail
  | notAMapping path kind => "Config file " ++ path ++ " must contain a mapping, got " ++ kind
  | malformedOverride name => "Malformed " ++ overridePrefix ++ "* key: '" ++ name ++ "'"
  | blockedOverride path =>
      "Cannot apply override " ++ ".".intercalate path ++ ": path traverses a non-mapping"
  | invalid place problem => "Invalid configuration at " ++ placeText place ++ ": " ++ problem

end ConfigError

end MarkupLint
