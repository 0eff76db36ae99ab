import ReviewDesk.Json.Reader
import ReviewDesk.Json.Writer
import ReviewDesk.Text.Blank

/-!
What can go wrong with a request and with a label form, and how it is told.
-/

namespace ReviewDesk

/-- Why a request brought no answer that can be used. -/
inductive TransportFault where
  | network (detail : String)
  | status (code : UInt16) (detail : String) (body : String)
  | decode (detail : String)
deriving DecidableEq

namespace TransportFault

def detail : TransportFault → String
  | .network detail => detail
  | .status _ detail _ => detail
  | .decode detail => detail

def code? : TransportFault → Option UInt16
  | .status code _ _ => some code
  | _ => none

def body? : TransportFault → Option String
  | .status _ _ body => some body
  | _ => none

def message : TransportFault → String
  | .network detail => "request failed: " ++ detail
  | .status code detail _ =>
    "request failed with status " ++ toString code.toNat ++ ": " ++ detail
  | .decode detail => "unexpected response: " ++ detail

/-- What an error body says: its member `detail` when it is an object with one, or else its text. A
blank body says nothing. -/
def detailOfBody (body : String) : Option String :=
  (Text.trimToOption body).map fun text =>
    match (Json.parse? text).bind (·.get? "detail") with
    | some (.string detail) => detail
    | some value => value.compact
    | none => text

/-- The fault of an answer with an error status. -/
def ofStatus (code : UInt16) (reason : Option String) (body : String) : TransportFault :=
  .status code
    ((detailOfBody body <|> reason).getD ("HTTP " ++ toString code.toNat)) body

/-- The fault as it is told to a reader, the status last. -/
def describe (fault : TransportFault) : String :=
  match fault.code? with
  | some code => fault.detail ++ " (HTTP " ++ toString code.toNat ++ ")"
  | none => fault.detail

end TransportFault

/-- Why a form cannot be submitted. -/
inductive FormFault where
  | missingSelection
  | missingLabel
  | invalidConfidence (text : String)
  | invalidCount (text : String)
deriving DecidableEq

def FormFault.message : FormFault → String
  | .missingSelection => "select an item before submitting"
  | .missingLabel => "choose a label to submit"
  | .invalidConfidence text =>
    "confidence must be a number between 0 and 1, got " ++ Text.quoted text
  | .invalidCount text => "count must be a non-negative integer, got " ++ Text.quoted text

/-- Why a label was not saved. -/
inductive SubmitFault where
  | form (fault : FormFault)
  | transport (fault : TransportFault)
deriving DecidableEq

def SubmitFault.message : SubmitFault → String
  | .form fault => fault.message
  | .transport fault => fault.message

end ReviewDesk
