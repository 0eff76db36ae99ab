import Mathlib.Data.List.Basic
import ReviewDesk.Http.Resource
import ReviewDesk.Proofs.Url.Addressing

/-!
Requests about one item or one document. Each goes to an address below that of the collection, but
what it is about is the id only as long as the id is kept as it is. A request about a lone dot, or
about two, is one about the collection.
-/

namespace ReviewDesk
namespace Http

open Url

/-- What is asked for about one item or document. -/
inductive Errand where
  | item
  | label (submission : Submission)
  | document (kind : ResourceKind)
  | update (kind : ResourceKind) (body : Json)
  | delete (kind : ResourceKind)

namespace Errand

/-- The log once the errand is done. -/
def run (client : Client) (id : String) (log : List Request) : Errand → List Request
  | .item => (client.service.get id log).2
  | .label submission => (client.service.submit id submission log).2
  | .document kind => (ResourceAction.perform client kind (.get id) log).2
  | .update kind body => (ResourceAction.perform client kind (.update id body) log).2
  | .delete kind => (ResourceAction.perform client kind (.delete id) log).2

def collection : Errand → List String
  | .item => Client.queuePath
  | .label _ => Client.queuePath
  | .document kind => kind.collection
  | .update kind _ => kind.collection
  | .delete kind => kind.collection

/-- What comes after the id. -/
def after : Errand → List String
  | .label _ => ["label"]
  | _ => []

def url (client : Client) (id : String) (errand : Errand) : Url :=
  client.base.endpoint (errand.collection ++ id :: errand.after) []

theorem run_urls (client : Client) (id : String) (log : List Request) (errand : Errand) :
    (errand.run client id log).map Request.url = errand.url client id :: log.map Request.url := by
  cases errand <;> rfl

theorem after_short (errand : Errand) : errand.after = [] ∨ errand.after = ["label"] := by
  cases errand with
  | label submission => exact .inr rfl
  | item | document kind | update kind body | delete kind => exact .inl rfl

/-- A collection ends in a word of its own. -/
theorem collection_ends (errand : Errand) :
    ∃ front w, errand.collection = front ++ [w] ∧ Word w ∧ w ≠ "label" := by
  have documents (kind : ResourceKind) :
      ∃ front w, kind.collection = front ++ [w] ∧ Word w ∧ w ≠ "label" := by
    cases kind with
    | alertRules => exact ⟨[], "alert-rules", rfl, word_of_mem (by decide), by decide⟩
    | streams => exact ⟨["config"], "streams", rfl, word_of_mem (by decide), by decide⟩
  cases errand with
  | item | label submission =>
      exact ⟨["review"], "image-queries", rfl, word_of_mem (by decide), by decide⟩
  | document kind | update kind body | delete kind => exact documents kind

end Errand

/-- An address that goes on from another one with a segment that decodes to the id. -/
def Continues (whole part : Url) (id : String) (after : List String) : Prop :=
  ∃ guarded front own, part.path = .rooted guarded front ∧
    whole.path = .rooted guarded (front ++ own :: after) ∧ decode? own.toList = some id

section

variable {base : Url} {guarded : Bool} {path collection after : List String} {w : String}
  (rooted : base.path = .rooted guarded path)
  (root : Open base.scheme (belowBase base path collection) w)
  (short : after = [] ∨ after = ["label"])

include rooted root short

theorem continues_iff (id : String) :
    Continues (base.endpoint (collection ++ id :: after) []) (base.endpoint collection []) id
      after ↔ Plain id := by
  constructor
  · rintro ⟨_, front, own, part, added, decoded⟩
    rw [path_endpoint rooted] at part added
    cases part
    rw [belowBase_append] at added
    exact root.plain_of_reach short (Path.rooted.inj added).2 decoded
  · intro plain
    refine ⟨guarded, _, String.ofList (encode (segmentSet base.scheme) id.toList),
      path_endpoint rooted _, ?_, ?_⟩
    · rw [path_endpoint rooted, belowBase_append, root.reach_of_plain plain short]
    · rw [String.toList_ofList, decode?_encode (segmentSet_percent _)]
      exact congrArg some String.ofList_toList

theorem text_ne_of_plain {a b : String} (left : Plain a) (right : Plain b) (other : a ≠ b) :
    (base.endpoint (collection ++ a :: after) []).text ≠
      (base.endpoint (collection ++ b :: after) []).text := by
  have reach {id : String} (plain : Plain id) :
      segmentsText (belowBase base path (collection ++ id :: after)) =
        segmentsText (belowBase base path collection) ++
          ("/" ++ String.ofList (encode (segmentSet base.scheme) id.toList) ++
            segmentsText after) := by
    rw [belowBase_append, root.reach_of_plain plain short, segmentsText_append, segmentsText_cons]
  intro same
  rw [text_endpoint_eq_iff rooted, reach left, reach right, String.append_right_inj,
    String.append_left_inj, String.append_right_inj] at same
  have encoded := String.ofList_injective same
  exact other (String.toList_inj.mp ((encode_inj (segmentSet_percent _)).mp encoded))

theorem text_eq_collection_iff (other : w ≠ "label") (id : String) :
    (base.endpoint (collection ++ id :: after) []).text = (base.endpoint collection []).text ↔
      after = [] ∧ (id = "." ∨ id = "..") := by
  rw [text_endpoint_eq_iff rooted, belowBase_append, List.foldl_cons]
  rcases short with rfl | rfl
  · rw [List.foldl_nil, root.text_eq_iff]
    exact (and_iff_right rfl).symm
  · have apart := root.text_below_ne id (word_of_mem (by decide)) other.symm
    constructor
    · intro same
      exact (apart same).elim
    · rintro ⟨none, -⟩
      cases none

end

/-- Whatever is asked for about an id goes to an address below the collection that names the id, if
the id is kept as it is, and only then. No two such ids share an address, and dots alone share that
of the collection. -/
theorem addresses_name_plain_ids {text : String} {client : Client}
    (accepted : parseBase text = .ok client.base) (errand : Errand) :
    let own := client.base.endpoint errand.collection []
    (∀ id log, (errand.run client id log).map Request.url =
      errand.url client id :: log.map Request.url) ∧
    (∀ id, Continues (errand.url client id) own id errand.after ↔ Plain id) ∧
    (∀ a b, Plain a → Plain b → a ≠ b → (errand.url client a).text ≠ (errand.url client b).text) ∧
    ∀ id, (errand.url client id).text = own.text ↔ errand.after = [] ∧ (id = "." ∨ id = "..") := by
  intro own
  obtain ⟨guarded, path, rooted⟩ := rooted_of_parseBase accepted
  obtain ⟨front, w, ends, word, other⟩ := errand.collection_ends
  have root : Open client.base.scheme (belowBase client.base path errand.collection) w := by
    rw [ends]
    exact open_foldl _ _ front word
  refine ⟨fun id log => errand.run_urls client id log, ?_, ?_, ?_⟩
  · intro id
    exact continues_iff rooted root errand.after_short id
  · intro a b left right apart
    exact text_ne_of_plain rooted root errand.after_short left right apart
  · intro id
    exact text_eq_collection_iff rooted root errand.after_short other id

/-- A client of a server that answers nothing. -/
def localClient : Client where
  server := unreachable
  base :=
    { scheme := "http"
      authority := some { host := some (.name "localhost"), port := some 8000 }
      path := .rooted false ["v1"]
      query := none
      fragment := none }

theorem parseBase_localhost :
    parseBase "http://localhost:8000/v1" = .ok localClient.base := by
  decide +kernel

theorem plain_of_spaced : Plain "a b%/" where
  dot := by decide
  dots := by decide
  kept := by simp [isDropped]

theorem spaced_id_is_named :
    parseBase "http://localhost:8000/v1" = .ok localClient.base ∧
      Continues ((Errand.delete .alertRules).url localClient "a b%/")
        (localClient.base.endpoint ["alert-rules"] []) "a b%/" [] :=
  ⟨parseBase_localhost,
    ((addresses_name_plain_ids parseBase_localhost (.delete .alertRules)).2.1 "a b%/").mpr
      plain_of_spaced⟩

/-- To delete the document named by a dot is to delete the collection. -/
theorem dot_names_the_collection :
    parseBase "http://localhost:8000/v1" = .ok localClient.base ∧
      ((Errand.delete .alertRules).run localClient "." []).map (fun r => (r.method, r.url)) =
        [("DELETE", localClient.base.endpoint ["alert-rules"] [])] :=
  ⟨parseBase_localhost, by decide +kernel⟩

end Http
end ReviewDesk
