/-!
# Arguments of the command line

There are two commands. `analyze` takes options, in any order and each at most once; `default-config`
takes none. An option has a long name, and most have a letter too. Its value follows as the next
argument, behind an equals sign, or directly behind the letter; letters of switches may be joined.
The switch `--verbose` may stand before the command as well.
-/

namespace ComponentSupport.CommandLine

/-! ### Commands -/

/-- The form of a printed report. -/
inductive ReportFormat where
  | text
  | json
  deriving DecidableEq, Repr

/-- What `analyze` is asked to do. -/
structure AnalyzeRequest where
  /-- The file with the snapshot of the types. -/
  types : String
  /-- The file with the model. -/
  model : String
  /-- The file with the configuration. -/
  config : Option String
  format : ReportFormat
  /-- The file to write the model to, with the types that were found. -/
  output : Option String
  /-- A component that failed makes the command fail. -/
  strict : Bool
  deriving DecidableEq, Repr

/-- A command. -/
inductive Command where
  | analyze (request : AnalyzeRequest)
  | defaultConfig
  deriving DecidableEq, Repr

/-! ### Options -/

/-- The options of all commands. -/
inductive Flag where
  | types
  | model
  | config
  | format
  | output
  | strict
  | verbose
  deriving DecidableEq, Repr

namespace Flag

/-- The long name of an option. -/
def name : Flag → String
  | types => "types"
  | model => "model"
  | config => "config"
  | format => "format"
  | output => "output"
  | strict => "strict"
  | verbose => "verbose"

/-- The letter of an option. -/
def letter? : Flag → Option Char
  | types => some 't'
  | model => some 'm'
  | config => some 'c'
  | format => some 'f'
  | output => some 'o'
  | strict => none
  | verbose => some 'v'

/-- Whether an option is a switch, which has no value. -/
def isSwitch : Flag → Bool
  | strict | verbose => true
  | _ => false

/-- The options of `analyze`. -/
def ofAnalyze : List Flag := [types, model, config, format, output, strict, verbose]

end Flag

/-- An option that is given, with its value; that of a switch is empty. -/
structure Given where
  flag : Flag
  value : String

/-- Whether an argument looks like an option. -/
def looksLikeOption (arg : List Char) : Bool := arg.head? = some '-' && arg ≠ ['-']

/-- What one argument gives: options, and perhaps one more whose value is the next argument. -/
structure Reading where
  given : List Given
  pending : Option Flag

/-- Reads a long option: its name, and perhaps its value behind an equals sign. -/
def readLong (known : List Flag) (arg : List Char) : Option Reading := do
  let name := arg.takeWhile (· ≠ '=')
  let flag ← known.find? (·.name.toList = name)
  match arg.dropWhile (· ≠ '=') with
  | [] => if flag.isSwitch then some ⟨[⟨flag, ""⟩], none⟩ else some ⟨[], some flag⟩
  | [_] => none
  | _ :: value => if flag.isSwitch then none else some ⟨[⟨flag, String.ofList value⟩], none⟩

/-- Reads joined letters: switches, and perhaps an option with a value at the end. -/
def readLetters (known : List Flag) : List Char → Option Reading
  | [] => some ⟨[], none⟩
  | c :: rest => do
    let flag ← known.find? (·.letter? = some c)
    if flag.isSwitch then
      let more ← readLetters known rest
      return { more with given := ⟨flag, ""⟩ :: more.given }
    else match rest with
      | [] => return ⟨[], some flag⟩
      | ['='] => none
      | '=' :: value => return ⟨[⟨flag, String.ofList value⟩], none⟩
      | value => return ⟨[⟨flag, String.ofList value⟩], none⟩

/-- Reads an argument that looks like an option. -/
def readOption (known : List Flag) : List Char → Option Reading
  | '-' :: '-' :: arg => readLong known arg
  | '-' :: c :: letters => readLetters known (c :: letters)
  | _ => none

/-- Reads arguments as options, where `pending` has its value in the next one. -/
def readOptions (known : List Flag) : Option Flag → List String → Option (List Given)
  | none, [] => some []
  | some _, [] => none
  | some flag, value :: rest =>
    if value.isEmpty || looksLikeOption value.toList then none
    else (readOptions known none rest).map (⟨flag, value⟩ :: ·)
  | none, arg :: rest =>
    if arg = "--" then (if rest.isEmpty then some [] else none)
    else do
      let reading ← readOption known arg.toList
      let more ← readOptions known reading.pending rest
      return reading.given ++ more

/-- No option is given twice. -/
def allOnce (given : List Given) : Bool := decide (given.map (·.flag)).Nodup

/-- The value of an option. -/
def value? (given : List Given) (flag : Flag) : Option String :=
  (given.find? (·.flag = flag)).map (·.value)

/-! ### Reading commands -/

/-- The form that a name asks for. -/
def format? (name : String) : Option ReportFormat :=
  if name = "text" then some .text else if name = "json" then some .json else none

/-- The request that options make. -/
def AnalyzeRequest.ofGiven? (given : List Given) : Option AnalyzeRequest := do
  return {
    types := ← value? given .types
    model := ← value? given .model
    config := value? given .config
    format := ← format? ((value? given .format).getD "text")
    output := value? given .output
    strict := (value? given .strict).isSome }

/-- Reads a command by its name and its options. -/
def Command.ofOptions? (name : String) (args : List String) : Option Command :=
  if name = "analyze" then do
    let given ← readOptions Flag.ofAnalyze none args
    if allOnce given then (AnalyzeRequest.ofGiven? given).map analyze else none
  else if name = "default-config" then do
    let given ← readOptions [.verbose] none args
    if allOnce given then some defaultConfig else none
  else none

/-- Reads a command line. The switches before the command are in `before`. -/
def Command.ofArguments? (before : List Given) : List String → Option Command
  | [] => none
  | arg :: rest =>
    if looksLikeOption arg.toList then do
      let reading ← readOption [.verbose] arg.toList
      let before := before ++ reading.given
      if allOnce before then ofArguments? before rest else none
    else ofOptions? arg rest

/-- Reads a command line. -/
def parse? (args : List String) : Option Command := Command.ofArguments? [] args

end ComponentSupport.CommandLine
