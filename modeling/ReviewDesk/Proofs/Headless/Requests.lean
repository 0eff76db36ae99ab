import ReviewDesk.Proofs.CommandLine.Needs
import ReviewDesk.Proofs.Headless.Course
import ReviewDesk.Proofs.Http.Naming

/-!
What a run asks for, what that names, and what is sent for it. A run takes the course that the
answers leave it, so a label is posted once at most, and a run that was asked to open or to label an
item and did not is at fault. An item is named by an id that a segment keeps as it is, and by no
other one; and more is sent than was asked for just where an answer sends a request on.
-/

namespace ReviewDesk.Headless

open Http (Client isWeb sent next? Repeats)
open Url (Plain)

/-- What the requests of a client name. -/
structure Names (c : Client) : Prop where
  page : ∀ f, (c.listRequest f).AsksForPage c.base f
  item : ∀ id, (c.itemRequest id).AsksForItem c.base id ↔ Plain id
  label : ∀ id submission,
    (c.labelRequest id submission).PostsLabel c.base id submission ↔ Plain id

theorem names_of_parseBase {text : String} {c : Client} (based : Url.parseBase text = .ok c.base)
    (web : isWeb c.base = true) : Names c := by
  obtain ⟨guarded, path, rooted⟩ := Url.rooted_of_parseBase based
  exact {
    page := Client.listRequest_asksForPage rooted web
    item := Client.itemRequest_asksForItem_iff rooted web
    label := Client.labelRequest_postsLabel_iff rooted web }

/-- What is sent for the requests of a log: they and no others where no answer sends one on. What is
posted is sent, once where no answer says to repeat it; and what is posted besides is repeated. -/
structure SentFor (server : Http.Server) (log : List Http.Request) : Prop where
  alone : sent server log = log ↔ ∀ r before, r :: before <:+ log →
    next? server r (sent server before) = none
  repeated : ∀ r ∈ Client.posts (sent server log),
    ∃ p ∈ Client.posts log, r = { p with url := r.url }
  posted : (Client.posts log).length ≤ (Client.posts (sent server log)).length
  once : Client.posts (sent server log) = Client.posts log ↔ ∀ p before, p :: before <:+ log →
    p.method = "POST" → ¬Repeats server p (sent server before)

variable {o : Options} {c : Client} {log : List Http.Request} {ending : Ending}

theorem sentFor_of_course (course : Course o c log ending) (web : isWeb c.base = true) :
    SentFor c.server log := by
  have all : ∀ r ∈ log, isWeb r.url = true :=
    course.forall_requests (fun _ => web) (fun _ => web) (fun _ _ => web)
  have kinds : ∀ r ∈ log, r.Asks ∨ r.method = "POST" :=
    course.forall_requests (fun _ => .inl ⟨rfl, rfl⟩) (fun _ => .inl ⟨rfl, rfl⟩)
      (fun _ _ => .inr rfl)
  obtain ⟨repeated, posted, once⟩ := Http.posts_sent all kinds
  exact ⟨Http.sent_eq_self_iff all, repeated, posted, once⟩

/-- Nothing is sent by another scheme, and then there is no page. -/
theorem course_of_other (o : Options) (other : isWeb c.base = false) :
    sent c.server [c.listRequest o.filter] = [] ∧ ∃ fault,
      Course o c [c.listRequest o.filter] (.stopped (.queue fault)) :=
  ⟨Http.sent_eq_nil (List.forall_mem_singleton.mpr other), _,
    .unloaded (Client.loads_of_other other o.filter [])⟩

/-- Every run takes a course, and there is only the one that the answers leave it; where it stops,
that is the fault of the run. A label is posted once at most, for the item that was wanted, after it
was found on the page. A run without a fault has done what was wanted. By a scheme of the web pages
are named, and items just by ids that a segment keeps as they are; and what is asked for is sent, and
nothing else unless an answer sends it on. By another scheme nothing is sent at all. -/
theorem run_takes_its_course {env : List (String × String)} {arguments : List String}
    (parsed : Options.parse env arguments = .ok o) (queue : o.resource = none)
    (setting : Setting) (based : Url.parseBase o.apiBase = .ok setting.client.base) :
    let c := setting.client
    let log := (run o setting).log
    (∃ ending, Course o c log ending) ∧
    (∀ log' ending, Course o c log' ending → log' = log ∧
      ∀ fault, ending = .stopped fault → (run o setting).fault = some fault) ∧
    (Client.posts log = [] ∨ ∃ before filter items id item label submission,
      Opened o c before filter items id item ∧ Labeled o id item label submission ∧
        Client.posts log = [c.labelRequest id submission]) ∧
    ((run o setting).fault = none →
      (∀ id, o.select = some id → HasOpened o c log id) ∧
        ∀ label, o.label = some label → HasLabeled o c log label) ∧
    (isWeb c.base = true → Names c ∧ SentFor c.server log) ∧
    (isWeb c.base = false → sent c.server log = [] ∧
      ∃ fault, (run o setting).fault = some (.queue fault)) := by
  intro c log
  obtain ⟨log', ending, course⟩ := exists_course o c
  obtain rfl : log = log' := run_log queue course
  refine ⟨⟨ending, course⟩, fun log' ending' course' => ⟨(run_log queue course').symm, ?_⟩,
    posts_of_course course, fun faultless => ?_,
    fun web => ⟨names_of_parseBase based web, sentFor_of_course course web⟩, fun other => ?_⟩
  · rintro fault rfl
    rw [run_of_stopped queue course']
  · have going : ∀ fault, ending ≠ .stopped fault := by
      rintro fault rfl
      rw [run_of_stopped queue course] at faultless
      cases faultless
    refine ⟨fun id selected => hasOpened_of_course course going selected, fun label wanted => ?_⟩
    obtain ⟨id, selected⟩ := Options.select_of_label parsed wanted
    exact hasLabeled_of_course course going selected wanted
  · obtain ⟨unsent, fault, stopped⟩ := course_of_other o other
    have asked : log = [c.listRequest o.filter] := run_log queue stopped
    rw [asked, run_of_stopped queue stopped]
    exact ⟨unsent, fault, rfl⟩

/-- Arguments that label an item and write the page. -/
def labelingArguments (id : String) : List String :=
  ["--no-tui", "--select", id, "--label", "YES", "-o", "page.csv"]

def labelingOptions (id : String) : Options where
  apiBase := Options.defaultBase
  limit := 50
  offset := 0
  detector := none
  pendingOnly := true
  rawLabels := ["YES", "NO", "UNCLEAR"]
  user := none
  timeoutMs := none
  noTui := true
  output := some "page.csv"
  format := .csv
  select := some id
  label := some "YES"
  confidence := none
  notes := none
  count := none
  resource := none
  resourceId := none
  resourceBody := none
  delete := false
  logFile := none

/-- An answer in plain characters. -/
def plainAnswer (status : UInt16) (document : Json) : Http.Response :=
  { status := status, bytes := document.compact.toList.map fun c => UInt8.ofNat c.toNat }

def pageOf (id : String) : Http.Response :=
  plainAnswer 200 (.members [("items", .array [.members [("id", .string id)]]),
    ("total", .number (.whole 1))])

def savedLabel (id : String) : Http.Response :=
  plainAnswer 200 (.members [("human_label", .string "YES"), ("id", .string id)])

def failedReload : Http.Response :=
  { status := 500, bytes := [] }

/-- A server with a page of one item, which answers so when its label is posted, and then. -/
def labelingSetting (id : String) (answers : List Http.Response) : Setting where
  client :=
    { server := Http.scripted
        (pageOf id :: plainAnswer 200 (.members [("id", .string id)]) :: answers)
      base := Http.localClient.base }
  disk := {}
  time := ""

/-- The label is saved, and the page cannot be loaded again. -/
def failedReloadSetting : Setting :=
  labelingSetting "a" [savedLabel "a", failedReload]

theorem label_is_posted_once :
    let o := labelingOptions "a"
    let setting := failedReloadSetting
    let queueUrl := "http://localhost:8000/v1/review/image-queries"
    Options.parse [] (labelingArguments "a") = .ok o ∧ o.resource = none ∧
      Url.parseBase o.apiBase = .ok setting.client.base ∧
      (run o setting).log.map (fun r => (r.method, r.url.text)) =
        [("GET", queueUrl ++ "?limit=50&offset=0&pending_only=true"),
          ("POST", queueUrl ++ "/a/label"), ("GET", queueUrl ++ "/a"),
          ("GET", queueUrl ++ "?limit=50&offset=0&pending_only=true")] ∧
      HasLabeled o setting.client (run o setting).log "YES" ∧
      SentFor setting.client.server (run o setting).log := by
  intro o setting queueUrl
  have parsed : Options.parse [] (labelingArguments "a") = .ok o := by decide +kernel
  have faultless : (run o setting).fault = none :=
    Option.isNone_iff_eq_none.mp (by decide +kernel)
  have based : Url.parseBase o.apiBase = .ok setting.client.base := Http.parseBase_localhost
  obtain ⟨-, -, -, carried, web, -⟩ := run_takes_its_course parsed rfl setting based
  exact ⟨parsed, rfl, based, by decide +kernel, (carried faultless).2 "YES" rfl,
    (web (by decide +kernel)).2⟩

/-- The item of the page has a tab in its id. The run is without a fault, and its label is posted for
an item that is not on the page. -/
theorem tabbed_label_is_posted_elsewhere :
    let o := labelingOptions "a\tb"
    let setting := labelingSetting "a\tb" [savedLabel "a\tb", pageOf "a\tb"]
    Options.parse [] (labelingArguments "a\tb") = .ok o ∧
      Url.parseBase o.apiBase = .ok setting.client.base ∧
      (setting.client.service.list o.filter []).1 = .ok ⟨[{ id := "a\tb" }], 1⟩ ∧
      (run o setting).fault = none ∧
      ∃ r, Client.posts (run o setting).log = [r] ∧
        r.url.text = "http://localhost:8000/v1/review/image-queries/ab/label" ∧
        r.PostsLabel setting.client.base "ab" { label := "YES" } ∧
        ¬r.PostsLabel setting.client.base "a\tb" { label := "YES" } := by
  intro o setting
  let c := setting.client
  have parsed : Options.parse [] (labelingArguments "a\tb") = .ok o := by decide +kernel
  have based : Url.parseBase o.apiBase = .ok c.base := Http.parseBase_localhost
  have answered : (c.service.list o.filter []).1 = .ok ⟨[{ id := "a\tb" }], 1⟩ := by decide +kernel
  have opened : Opened o c [c.listRequest o.filter] o.filter [{ id := "a\tb" }] "a\tb"
      { id := "a\tb" } :=
    ⟨Client.loads_of_start rfl answered, rfl, List.mem_singleton_self _, by decide +kernel⟩
  have labeled : Labeled o "a\tb" { id := "a\tb" } "YES" { label := "YES" } :=
    ⟨rfl, by decide +kernel⟩
  obtain ⟨log, ending, course, posts⟩ := opened.exists_labeling_course labeled
  rw [← run_log rfl course] at posts
  have same : c.base.endpoint (Client.queuePath ++ ["a\tb", "label"]) [] =
      c.base.endpoint (Client.queuePath ++ ["ab", "label"]) [] := by decide +kernel
  have other : c.labelRequest "a\tb" { label := "YES" } =
      c.labelRequest "ab" { label := "YES" } := by
    rw [Client.labelRequest, same]
    rfl
  obtain ⟨guarded, path, rooted⟩ := Url.rooted_of_parseBase based
  have named (id : String) := Client.labelRequest_postsLabel_iff rooted (by decide +kernel) id
    { label := "YES" }
  refine ⟨parsed, based, answered, Option.isNone_iff_eq_none.mp (by decide +kernel), _, posts,
    by decide +kernel, ?_, fun posted => ?_⟩
  · rw [other]
    exact (named "ab").mpr ⟨by decide, by decide, by simp [Url.isDropped]⟩
  · have dropped := ((named "a\tb").mp posted).kept '\t' (by decide)
    exact absurd dropped (by decide)

/-- An answer that sends a request on with what was posted. -/
def repeatElsewhere : Http.Response where
  status := 307
  bytes := []
  location := some (Http.localClient.base.endpoint ["moved"] [])

example :
    let setting := labelingSetting "a" [repeatElsewhere, savedLabel "a", failedReload]
    let log := (run (labelingOptions "a") setting).log
    (Client.posts (sent setting.client.server log)).map (·.url.text) =
      ["http://localhost:8000/v1/moved",
        "http://localhost:8000/v1/review/image-queries/a/label"] := by
  decide +kernel

end ReviewDesk.Headless
