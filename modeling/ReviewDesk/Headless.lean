import ReviewDesk.CommandLine.Reader
import ReviewDesk.Export.Basic
import ReviewDesk.Text.Fit
import ReviewDesk.View

/-!
A run without a screen: it shows a page of the queue, labels one item of it, exports it, or manages
the documents beside it.
-/

namespace ReviewDesk
namespace Headless

/-- Why a run ends before it has done what was wanted. -/
inductive Fault where
  | malformedBody
  | resource (action : ResourceAction) (kind : ResourceKind) (fault : TransportFault)
  | queue (fault : TransportFault)
  | item (id : String) (fault : TransportFault)
  | notOnPage (id : String)
  | label (id : String) (fault : SubmitFault)
  | save (path : String) (fault : DiskFault)
  /-- The page has no number. The program stops at the sum, without a report of its own. -/
  | unnumbered

/-- The fault and its cause. -/
def Fault.chain : Fault → List String
  | .malformedBody => ["--resource-body is not valid JSON", "malformed document"]
  | .resource action kind fault =>
    [action.outline ++ " on " ++ kind.label ++ " failed", fault.message]
  | .queue fault => ["failed to load the review queue", fault.message]
  | .item id fault => ["failed to load item " ++ id, fault.message]
  | .notOnPage id => ["item " ++ id ++ " is not on the requested page"]
  | .label id fault => ["failed to label " ++ id, fault.message]
  | .save path fault => ["failed to export to " ++ path, fault.message]
  | .unnumbered => []

/-- What a run leaves behind. The log holds its requests, the last one first. -/
structure Outcome where
  stdout : String := ""
  stderr : String := ""
  fault : Option Fault := none
  disk : Disk
  log : List Http.Request

/-- Where a run takes place. -/
structure Setting where
  client : Http.Client
  disk : Disk
  /-- The time in the name of a file that was given none. -/
  time : String

def runResource (o : Options) (setting : Setting) (kind : ResourceKind) : Outcome :=
  let stopped (fault : Fault) (log : List Http.Request) : Outcome :=
    { fault := some fault, disk := setting.disk, log := log }
  match o.resourceBody.map Json.parse? with
  | some none => stopped .malformedBody []
  | body =>
    let action := ResourceAction.ofParts o.resourceId body.join o.delete
    match action.perform setting.client kind [] with
    | (.error fault, log) => stopped (.resource action kind fault) log
    | (.ok value, log) =>
      { stdout := if value.isNull then "" else value.pretty ++ "\n"
        disk := setting.disk
        log := log }

/-- The texts that were given for the form of an item. -/
def fillForm (o : Options) (label : String) (form : LabelForm) : LabelForm :=
  { form with
    label := label
    confidence := o.confidence.getD form.confidence
    notes := o.notes.getD form.notes
    count := o.count.getD form.count }

/-- Opens the wanted item and labels it when a label is given. -/
def openAndLabel (o : Options) (service : Service (List Http.Request)) (s : Session)
    (log : List Http.Request) : Except Fault Session × List Http.Request :=
  match o.select with
  | none => (.ok s, log)
  | some id =>
    match s.selectNow service id log with
    | (.failed fault, _, log) => (.error (.item id fault), log)
    | (.vanished, _, log) => (.error (.notOnPage id), log)
    | (.stale, _, log) => (.error (.notOnPage id), log)
    | (.applied, s, log) =>
      match o.label with
      | none => (.ok s, log)
      | some label =>
        let s := { s with form := fillForm o label s.form }
        match s.submitNow service log with
        | (.ok _, s, log) => (.ok s, log)
        | (.error fault, _, log) => (.error (.label id fault), log)

def loadPage (o : Options) (service : Service (List Http.Request)) :
    Except Fault Session × List Http.Request :=
  let s := Session.start o.filter o.labels o.user
  match s.loadNow service o.filter [] with
  | (.failed fault, _, log) => (.error (.queue fault), log)
  | (_, s, log) => openAndLabel o service s log

def rowLine (row : View.Row) : String :=
  "\t".intercalate
    [row.id, row.detector, row.modelLabel, row.confidence, row.received, row.status] ++ "\n"

def detailText : View.Detail → String
  | .placeholder _ => ""
  | .item id fields _ =>
    "\n" ++ id ++ "\n" ++
      String.join (fields.map fun (title, value) => "  " ++ Text.padRight title 18 ++ value ++ "\n")

def pageText (view : View) : String :=
  (match view.body with
    | .rows rows => String.join (rows.map rowLine)
    | _ => "") ++ detailText view.detail

def summaryText (view : View) : String :=
  view.summary ++ " (" ++ view.filterSummary ++ ", " ++ view.pageLabel ++ ")\n"

/-- Shows the page, and writes it to a file when one is given. -/
def present (o : Options) (setting : Setting) (s : Session) (log : List Http.Request) : Outcome :=
  match s.view? with
  | none => { fault := some .unnumbered, disk := setting.disk, log := log }
  | some view =>
    let shown : Outcome := { stdout := pageText view, disk := setting.disk, log := log }
    if o.output.isNone then { shown with stderr := summaryText view }
    else
      let (path, format) := Export.target o.output o.format setting.client.base setting.time
      match Export.save setting.disk path format s.queue.items with
      | .error fault => { shown with fault := some (.save path fault) }
      | .ok (disk, count) =>
        { shown with
          stderr := "exported " ++ toString count ++ " items to " ++ path ++ "\n" ++
            summaryText view
          disk := disk }

def run (o : Options) (setting : Setting) : Outcome :=
  match o.resource with
  | some kind => runResource o setting kind
  | none =>
    match loadPage o setting.client.service with
    | (.error fault, log) => { fault := some fault, disk := setting.disk, log := log }
    | (.ok s, log) => present o setting s log

end Headless
end ReviewDesk
