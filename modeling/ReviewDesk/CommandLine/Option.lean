import ReviewDesk.Decimal.Reader

/-!
The options of the command line: how each is spelled, which values it takes, and which other option
it makes sense with only.
-/

namespace ReviewDesk
namespace CommandLine

inductive Key where
  | apiBase
  | limit
  | offset
  | detector
  | pendingOnly
  | labels
  | user
  | timeout
  | noTui
  | output
  | format
  | select
  | label
  | confidence
  | notes
  | count
  | resource
  | resourceId
  | resourceBody
  | delete
  | logFile
deriving DecidableEq

/-- The values that an option takes. -/
inductive ValueKind where
  /-- None; the option is there or not. -/
  | flag
  | text
  /-- Any text but the empty one. -/
  | path
  /-- A natural number of 64 bits. -/
  | word
  | oneOf (choices : List String)
  /-- Texts between commas; the option may be given more than once. -/
  | texts
deriving DecidableEq

/-- Why reading ends before there are options. -/
inductive Halt where
  | unknownArgument
  | invalidValue
  | valueValidation
  | argumentConflict
  | tooManyValues
  | missingRequired
  | help
  | version
deriving DecidableEq

namespace Key

def all : List Key :=
  [.apiBase, .limit, .offset, .detector, .pendingOnly, .labels, .user, .timeout, .noTui, .output,
    .format, .select, .label, .confidence, .notes, .count, .resource, .resourceId, .resourceBody,
    .delete, .logFile]

def long : Key → String
  | .apiBase => "api-base"
  | .limit => "limit"
  | .offset => "offset"
  | .detector => "detector"
  | .pendingOnly => "pending-only"
  | .labels => "labels"
  | .user => "user"
  | .timeout => "timeout-ms"
  | .noTui => "no-tui"
  | .output => "output"
  | .format => "format"
  | .select => "select"
  | .label => "label"
  | .confidence => "confidence"
  | .notes => "notes"
  | .count => "count"
  | .resource => "resource"
  | .resourceId => "resource-id"
  | .resourceBody => "resource-body"
  | .delete => "delete"
  | .logFile => "log-file"

def kind : Key → ValueKind
  | .limit => .word
  | .offset => .word
  | .timeout => .word
  | .pendingOnly => .oneOf ["true", "false"]
  | .labels => .texts
  | .noTui => .flag
  | .delete => .flag
  | .output => .path
  | .logFile => .path
  | .format => .oneOf ["csv", "json"]
  | .resource => .oneOf ["alert-rules", "streams"]
  | _ => .text

/-- The option without which this one is refused. -/
def needs : Key → Option Key
  | .select => some .noTui
  | .label => some .select
  | .confidence => some .label
  | .notes => some .label
  | .count => some .label
  | .resource => some .noTui
  | .resourceId => some .resource
  | .resourceBody => some .resource
  | .delete => some .resourceId
  | _ => none

/-- The variable of the environment that gives a value when no option does. -/
def variableName? : Key → Option String
  | .apiBase => some "REVIEWQ_API_BASE"
  | .user => some "REVIEWQ_USER"
  | _ => none

def ofLong? (name : String) : Option Key :=
  all.find? (·.long = name)

end Key

/-- Whether a value fits the option. -/
def ValueKind.check (kind : ValueKind) (value : String) : Except Halt Unit :=
  match kind with
  | .path => if value.isEmpty then .error .invalidValue else .ok ()
  | .word => if (Decimal.word64? value).isSome then .ok () else .error .valueValidation
  | .oneOf choices => if choices.contains value then .ok () else .error .invalidValue
  | _ => .ok ()

end CommandLine
end ReviewDesk
