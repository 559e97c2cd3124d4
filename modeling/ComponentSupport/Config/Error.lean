import ComponentSupport.Pattern

/-!
# What is wrong with a configuration

`ConfigError` lists the causes for which a configuration is refused, and `ConfigError.message` words
them.
-/

namespace ComponentSupport

/-- Why a configuration is refused. -/
inductive ConfigError where
  /-- A number is not between its bounds. -/
  | range (field : String) (value least most : Int) (hint : String)
  /-- There is no version. -/
  | missingVersion
  /-- The version is not one of those that are supported. -/
  | unsupportedVersion (found : Nat) (supported : List Nat)
  /-- A pattern cannot be read. -/
  | invalidPattern (cause : InvalidPattern)
  /-- A list of strategies is empty. -/
  | emptyStrategyList (context : String)
  /-- A file could not be read. -/
  | io (detail : String)
  /-- The text is no document, or not a document of a configuration. -/
  | yaml (detail : String)
  /-- Any other rule is broken. -/
  | validation (message : String)
  deriving DecidableEq, Repr

/-- The wording of a cause. -/
def ConfigError.message : ConfigError → String
  | range field value least most hint =>
    s!"Invalid range for field '{field}': {value} not in {least}..={most}. {hint}"
  | missingVersion =>
    "Missing 'version' field in configuration file. Add 'version: 1' to the top of your YAML file."
  | unsupportedVersion found supported =>
    s!"Unsupported configuration version {found}. Supported versions: " ++
      ", ".intercalate (supported.map toString)
  | invalidPattern cause => s!"Invalid pattern '{cause.pattern}': {cause.reason}"
  | emptyStrategyList context =>
    s!"Empty strategy list in {context}. Add at least one strategy."
  | io detail => s!"IO error: {detail}"
  | yaml detail => s!"YAML parsing error: {detail}"
  | validation message => s!"Validation error: {message}"

end ComponentSupport
