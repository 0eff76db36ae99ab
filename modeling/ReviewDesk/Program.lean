import ReviewDesk.Headless

/-!
The program from its arguments to its end. A run that needs a screen is only prepared here.
-/

namespace ReviewDesk
namespace Program

open CommandLine (Key Halt)

def name : String := "reviewq"

def versionText : String := name ++ " 2026.10.18\n"

/-- How the program ends, or what it needs to go on. -/
inductive Ending where
  /-- Before there were options. -/
  | halted (halt : Halt)
  /-- A fault with its causes. -/
  | failed (stdout stderr : String) (chain : List String)
  | finished (stdout stderr : String)
  /-- In the middle of it, without a report of its own. -/
  | stopped (stdout stderr : String)
  /-- Options and a base address for the console. -/
  | console (options : Options) (base : Url)

/-- The log is written to a file while the console owns the screen. -/
def openLog (o : Options) (disk : Disk) : Except (List String) Disk :=
  match o.noTui, o.logFile with
  | false, some path =>
    match disk.write path "" with
    | .ok disk => .ok disk
    | .error fault => .error ["failed to open log file " ++ path, fault.message]
  | _, _ => .ok disk

def run (env : List (String × String)) (arguments : List String) (server : Http.Server)
    (disk : Disk) (time : String) : Ending :=
  match Options.parse env arguments with
  | .error halt => .halted halt
  | .ok o =>
    match openLog o disk, Url.parseBase o.apiBase with
    | .error chain, _ => .failed "" "" chain
    | .ok _, .error fault => .failed "" "" fault.chain
    | .ok disk, .ok base =>
      if o.noTui then
        let outcome := Headless.run o ⟨⟨server, base⟩, disk, time⟩
        match outcome.fault with
        | some .unnumbered => .stopped outcome.stdout outcome.stderr
        | some fault => .failed outcome.stdout outcome.stderr fault.chain
        | none => .finished outcome.stdout outcome.stderr
      else .console o base

def indented (text : String) : String :=
  "    " ++ "\n    ".intercalate (Text.split '\n' text)

/-- The report on a fault and its causes. -/
def report : List String → String
  | [] => ""
  | [fault] => "Error: " ++ fault ++ "\n"
  | fault :: causes =>
    "Error: " ++ fault ++ "\n\nCaused by:\n" ++ String.join (causes.map fun c => indented c ++ "\n")

def usageLine (key : Key) : String :=
  "  --" ++ key.long ++ (if key.kind = .flag then "" else " <VALUE>") ++ "\n"

def helpText : String :=
  "Usage: " ++ name ++ " [OPTIONS]\n\nOptions:\n" ++ String.join (Key.all.map usageLine)

def haltText : Halt → String
  | .unknownArgument => "error: unexpected argument found\n"
  | .invalidValue => "error: invalid value or no value for an option\n"
  | .valueValidation => "error: a value is not a number of 64 bits\n"
  | .argumentConflict => "error: an option cannot be used more than once\n"
  | .tooManyValues => "error: unexpected value for an option\n"
  | .missingRequired => "error: a required option was not given\n"
  | .help => helpText
  | .version => versionText

/-- Exit code and the texts on both streams. A console needs a terminal. -/
def Ending.result : Ending → UInt32 × String × String
  | .halted .help => (0, helpText, "")
  | .halted .version => (0, versionText, "")
  | .halted halt => (2, "", haltText halt)
  | .failed stdout stderr chain => (1, stdout, stderr ++ report chain)
  | .finished stdout stderr => (0, stdout, stderr)
  | .stopped stdout stderr => (101, stdout, stderr)
  | .console .. => (1, "", report ["failed to enable raw mode", "no terminal"])

end Program
end ReviewDesk
