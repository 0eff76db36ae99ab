import ReviewDesk.Http.Client

/-!
Documents that are kept beside the queue: rules for alerts, and camera streams. Streams come in an
envelope; a rule does not, but one that looks like an envelope is opened all the same.
-/

namespace ReviewDesk

inductive ResourceKind where
  | alertRules
  | streams
deriving DecidableEq

namespace ResourceKind

def label : ResourceKind → String
  | .alertRules => "alert-rules"
  | .streams => "streams"

/-- The path of all documents of the kind. -/
def collection : ResourceKind → List String
  | .alertRules => ["alert-rules"]
  | .streams => ["config", "streams"]

end ResourceKind

inductive ResourceAction where
  | list
  | get (id : String)
  | create (body : Json)
  | update (id : String) (body : Json)
  | delete (id : String)

namespace ResourceAction

/-- What is meant by an id, a body and a wish to delete. Only a document with an id is deleted. -/
def ofParts : Option String → Option Json → Bool → ResourceAction
  | some id, _, true => .delete id
  | some id, some body, false => .update id body
  | some id, none, false => .get id
  | none, some body, _ => .create body
  | none, none, _ => .list

def outline : ResourceAction → String
  | .list => "List"
  | .get id => "Get(" ++ Text.quoted id ++ ")"
  | .create body => "Create(" ++ body.outline ++ ")"
  | .update id body => "Update(" ++ Text.quoted id ++ ", " ++ body.outline ++ ")"
  | .delete id => "Delete(" ++ Text.quoted id ++ ")"

/-- The method, the segments after the collection, and the body of the request. -/
def request : ResourceAction → String × List String × Option Json
  | .list => ("GET", [], none)
  | .get id => ("GET", [id], none)
  | .create body => ("POST", [], some body)
  | .update id body => ("PUT", [id], some body)
  | .delete id => ("DELETE", [id], none)

/-- The value of the member of that name when there is one. -/
def openEnvelope (value : Json) (name : String) : Json :=
  (value.get? name).getD value

/-- What an answer means. -/
def result (kind : ResourceKind) (action : ResourceAction) (value : Json) :
    Except TransportFault Json :=
  match action with
  | .list =>
    match openEnvelope value "items" with
    | .array elements => .ok (.array elements)
    | .null => .ok (.array [])
    | other =>
      .error (.decode ("expected a list of " ++ kind.label ++ ", got " ++ other.compact))
  | .get _ => .ok (openEnvelope value "item")
  | .create _ => .ok (openEnvelope value "item")
  | .update _ _ => .ok (openEnvelope value "item")
  | .delete _ => .ok .null

def perform (client : Http.Client) (kind : ResourceKind) (action : ResourceAction)
    (log : List Http.Request) : Except TransportFault Json × List Http.Request :=
  let (method, segments, body) := action.request
  let (answer, log) := client.send method (kind.collection ++ segments) [] body log
  (answer.bind (action.result kind), log)

end ResourceAction
end ReviewDesk
