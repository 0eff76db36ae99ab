import ReviewDesk.CommandLine.Option
import ReviewDesk.Export.Format
import ReviewDesk.Filter
import ReviewDesk.Http.Resource
import ReviewDesk.Text.Split

/-!
Reading the command line. A value that stands alone is looked at only when the next option is
recognized or the line ends, so an argument that is not known is reported before a value that is
wrong. What an option needs is looked for last.
-/

namespace ReviewDesk
namespace CommandLine

structure Reading where
  /-- Values in the order in which they were settled. -/
  given : List (Key × String) := []
  /-- An option whose value is to come, or is not yet settled. -/
  pending : Option (Key × Option String) := none
  /-- Only plain arguments follow. -/
  ended : Bool := false

namespace Reading

def has (r : Reading) (key : Key) : Bool :=
  r.given.any (·.1 = key)

/-- Settles a value; only a list of texts may be given twice. -/
def record (r : Reading) (key : Key) (value : String) : Except Halt Reading := do
  if r.has key ∧ key.kind ≠ .texts then .error .argumentConflict
  key.kind.check value
  return { r with given := r.given ++ [(key, value)] }

/-- Settles the option before this one. -/
def settle (r : Reading) : Except Halt Reading :=
  match r.pending with
  | none => .ok r
  | some (_, none) => .error .invalidValue
  | some (key, some value) => { r with pending := none }.record key value

/-- An option with the value that is attached to it, if any. -/
def option (r : Reading) (key : Key) (attached : Option String) : Except Halt Reading :=
  match key.kind, attached with
  | .flag, some _ => .error .tooManyValues
  | .flag, none => do (← r.settle).record key ""
  | _, some value => do (← r.settle).record key value
  | _, none => do return { ← r.settle with pending := some (key, none) }

/-- A request for a text about the program. -/
def halt (r : Reading) (wanted : Halt) (attached : Option String) : Except Halt Reading :=
  match attached with
  | some _ => .error .tooManyValues
  | none => do
    discard r.settle
    .error wanted

/-- An option after two dashes; a value may follow an equals sign. -/
def long (r : Reading) (cs : List Char) : Except Halt Reading :=
  let name := String.ofList (cs.takeWhile (· ≠ '='))
  let attached :=
    if cs.contains '=' then some (String.ofList ((cs.dropWhile (· ≠ '=')).drop 1)) else none
  if name = "help" then r.halt .help attached
  else if name = "version" then r.halt .version attached
  else
    match Key.ofLong? name with
    | some key => r.option key attached
    | none => .error .unknownArgument

/-- An option after one dash; its value may follow at once, or after an equals sign. -/
def short (r : Reading) : List Char → Except Halt Reading
  | ['o'] => r.option .output none
  | 'o' :: '=' :: rest => r.option .output (some (String.ofList rest))
  | 'o' :: rest => r.option .output (some (String.ofList rest))
  | 'h' :: _ => r.halt .help none
  | 'V' :: _ => r.halt .version none
  | _ => .error .unknownArgument

def plain (r : Reading) (argument : String) : Except Halt Reading :=
  match r.pending with
  | some (key, none) => .ok { r with pending := some (key, some argument) }
  | _ => .error .unknownArgument

def step (r : Reading) (argument : String) : Except Halt Reading :=
  if r.ended then .error .unknownArgument
  else
    match argument.toList with
    | ['-', '-'] => .ok { r with ended := true }
    | '-' :: '-' :: cs => r.long cs
    | ['-'] => r.plain argument
    | '-' :: cs => r.short cs
    | _ => r.plain argument

/-- Every option that was given has what it needs. -/
def isComplete (r : Reading) : Bool :=
  r.given.all fun (key, _) =>
    match key.needs with
    | some other => r.has other
    | none => true

def value? (r : Reading) (key : Key) : Option String :=
  r.given.lookup key

end Reading
end CommandLine

/-- The options of a run. -/
structure Options where
  apiBase : String
  limit : UInt64
  offset : UInt64
  detector : Option String
  pendingOnly : Bool
  /-- The label texts as they were given. -/
  rawLabels : List String
  user : Option String
  timeoutMs : Option UInt64
  noTui : Bool
  output : Option String
  format : DataFormat
  select : Option String
  label : Option String
  confidence : Option String
  notes : Option String
  count : Option String
  resource : Option ResourceKind
  resourceId : Option String
  resourceBody : Option String
  delete : Bool
  logFile : Option String
deriving DecidableEq

namespace Options

open CommandLine (Key Reading Halt)

def defaultBase : String := "http://localhost:8000/v1"

def defaultLabels : String := "YES,NO,UNCLEAR"

/-- The options that were given; the environment and the defaults stand in for the others. -/
def ofReading (env : List (String × String)) (r : Reading) : Options :=
  let text (key : Key) : Option String :=
    r.value? key <|> key.variableName?.bind fun name => env.lookup name
  let word (key : Key) : Option UInt64 := (r.value? key).bind Decimal.word64?
  let labels := (r.given.filter (·.1 = .labels)).map (·.2)
  { apiBase := (text .apiBase).getD defaultBase
    limit := (word .limit).getD Filter.defaultLimit
    offset := (word .offset).getD 0
    detector := text .detector
    pendingOnly := r.value? .pendingOnly ≠ some "false"
    rawLabels := (if labels.isEmpty then [defaultLabels] else labels).flatMap (Text.split ',')
    user := text .user
    timeoutMs := word .timeout
    noTui := r.has .noTui
    output := text .output
    format := if r.value? .format = some "json" then .json else .csv
    select := text .select
    label := text .label
    confidence := text .confidence
    notes := text .notes
    count := text .count
    resource := (r.value? .resource).map fun name =>
      if name = "streams" then .streams else .alertRules
    resourceId := text .resourceId
    resourceBody := text .resourceBody
    delete := r.has .delete
    logFile := text .logFile }

/-- Reads the arguments after the program's name. -/
def parse (env : List (String × String)) (arguments : List String) : Except Halt Options := do
  let reading ← arguments.foldlM Reading.step {}
  let reading ← reading.settle
  if reading.isComplete then return ofReading env reading else .error .missingRequired

def filter (o : Options) : Filter :=
  .normalized o.pendingOnly o.detector o.limit o.offset

/-- The vocabulary of labels: the texts that are not blank. -/
def labels (o : Options) : List String :=
  o.rawLabels.filterMap Text.trimToOption

end Options
end ReviewDesk
