import ReviewDesk.Proofs.Http.Listing

/-!
What a request for the queue names: a page by the query of its address, an item by a segment that
decodes to the id, and where the label of an item goes. A page is always named. An item is named by
an id that a segment keeps as it is, and by no other one.
-/

namespace ReviewDesk

namespace Url

/-- The segments that others come after; an empty one at the end is none of them. -/
def trunk (path : List String) : List String :=
  let front := if path.getLast? = some "" then path.dropLast else path
  if front = [""] then [] else front

/-- The address with segments after its own, as they stand. -/
def down (base : Url) (segments : List String) : Url :=
  match base.path with
  | .rooted guarded path => { base with path := .rooted guarded (trunk path ++ segments) }
  | .bare _ => base

theorem trunk_eq (path : List String) :
    trunk path = if dropEmptyLast path = [""] then [] else dropEmptyLast path := by
  by_cases empty : path.getLast? = some ""
  · obtain ⟨front, rfl⟩ := List.getLast?_eq_some_iff.mp empty
    cases front with
    | nil => simp [trunk, dropEmptyLast]
    | cons a front => simp [trunk, dropEmptyLast]
  · simp [trunk, dropEmptyLast, empty]

theorem settle_of_ne {scheme : String} (other : scheme ≠ "file") (path : List String) :
    settle scheme path = path :=
  settle_of_head fun file => (other file).elim

section

variable {base : Url} {guarded : Bool} {path : List String}

theorem endpoint_eq_down_iff (rooted : base.path = .rooted guarded path)
    (segments own : List String) :
    base.endpoint segments [] = base.down own ↔ belowBase base path segments = trunk path ++ own := by
  have whole : base.endpoint segments [] =
      { base with path := .rooted guarded (belowBase base path segments) } := by
    simp only [endpoint, rooted, Path.extend, belowBase, extendQuery, List.isEmpty_nil, if_true]
  rw [whole, down, rooted]
  simp

theorem belowBase_queuePath (other : base.scheme ≠ "file") (path : List String) :
    belowBase base path Http.Client.queuePath = trunk path ++ Http.Client.queuePath := by
  have longer : trunk path ++ ["review"] ≠ [""] := by
    intro lone
    have last := congrArg List.getLast? lone
    simp at last
  rw [belowBase, Http.Client.queuePath, List.foldl_cons, List.foldl_cons, List.foldl_nil,
    appendSegment_word _ _ (word_of_mem (w := "review") (by decide)), settle_of_ne other, ← trunk_eq,
    appendSegment_word _ _ (word_of_mem (w := "image-queries") (by decide)), settle_of_ne other,
    if_neg longer, List.append_assoc]
  rfl

theorem open_queuePath (other : base.scheme ≠ "file") (path : List String) :
    Open base.scheme (trunk path ++ Http.Client.queuePath) "image-queries" where
  word := word_of_mem (by decide)
  last := ⟨trunk path ++ ["review"], by rw [List.append_assoc]; rfl⟩
  first file := (other file).elim

/-- Below the queue an id is named if a segment keeps it as it is. -/
theorem exists_named_iff (rooted : base.path = .rooted guarded path) (other : base.scheme ≠ "file")
    {after : List String} (short : after = [] ∨ after = ["label"]) (id : String) :
    (∃ own, decode? own.toList = some id ∧
      base.endpoint (Http.Client.queuePath ++ id :: after) [] =
        base.down (Http.Client.queuePath ++ own :: after)) ↔ Plain id := by
  have root := open_queuePath other path
  have named (own : String) : base.endpoint (Http.Client.queuePath ++ id :: after) [] =
      base.down (Http.Client.queuePath ++ own :: after) ↔
        (id :: after).foldl (appendSegment base.scheme) (trunk path ++ Http.Client.queuePath) =
          trunk path ++ Http.Client.queuePath ++ own :: after := by
    rw [endpoint_eq_down_iff rooted, belowBase_append, belowBase_queuePath other, List.append_assoc]
  constructor
  · rintro ⟨own, decoded, same⟩
    exact root.plain_of_reach short ((named own).mp same) decoded
  · intro plain
    refine ⟨String.ofList (encode (segmentSet base.scheme) id.toList), ?_,
      (named _).mpr (root.reach_of_plain plain short)⟩
    rw [String.toList_ofList, decode?_encode (segmentSet_percent _), String.ofList_toList]

end

end Url

namespace Http

open Url (decode? readForm Plain)

/-- What stands in a query before the pairs that are added to it. -/
def queryBefore (base : Url) : String :=
  match base.query with
  | none => ""
  | some query => if query = "" then "" else query ++ "&"

/-- The request asks for the page of the queue that the filter tells. -/
def Request.AsksForPage (r : Request) (base : Url) (f : Filter) : Prop :=
  ∃ query, f.SpelledBy (readForm query.toList) ∧
    r = ⟨"GET", { base.down ["review", "image-queries"] with
      query := some (queryBefore base ++ query) }, none⟩

/-- The request asks for the item of that id. -/
def Request.AsksForItem (r : Request) (base : Url) (id : String) : Prop :=
  ∃ own, decode? own.toList = some id ∧
    r = ⟨"GET", base.down ["review", "image-queries", own], none⟩

/-- The request posts a label of the item of that id. -/
def Request.PostsLabel (r : Request) (base : Url) (id : String) (submission : Submission) : Prop :=
  ∃ own, decode? own.toList = some id ∧
    r = ⟨"POST", base.down ["review", "image-queries", own, "label"], some submission.toJson⟩

theorem ne_file_of_isWeb {url : Url} (web : isWeb url = true) : url.scheme ≠ "file" := by
  intro file
  simp [isWeb, file] at web

namespace Client

variable {c : Client} {guarded : Bool} {path : List String}

theorem listRequest_asksForPage (rooted : c.base.path = .rooted guarded path)
    (web : isWeb c.base = true) (f : Filter) : (c.listRequest f).AsksForPage c.base f := by
  refine ⟨String.ofList (Url.formPairs f.query), ?_, ?_⟩
  · rw [String.toList_ofList, Url.readForm_formPairs]
    exact f.spelledBy_query
  · have along := (Url.endpoint_eq_down_iff rooted queuePath queuePath).mpr
      (Url.belowBase_queuePath (ne_file_of_isWeb web) path)
    have added : c.base.endpoint queuePath f.query =
        { c.base.endpoint queuePath [] with
          query := some (queryBefore c.base ++ String.ofList (Url.formPairs f.query)) } := by
      cases known : c.base.query with
      | none => simp [Url.endpoint, Url.extendQuery, known, queryBefore, Filter.query]
      | some query =>
          by_cases empty : query = "" <;>
            simp [Url.endpoint, Url.extendQuery, known, queryBefore, empty, Filter.query]
    rw [listRequest, added, along]
    rfl

theorem itemRequest_asksForItem_iff (rooted : c.base.path = .rooted guarded path)
    (web : isWeb c.base = true) (id : String) :
    (c.itemRequest id).AsksForItem c.base id ↔ Plain id := by
  rw [← Url.exists_named_iff rooted (ne_file_of_isWeb web) (.inl rfl)]
  simp only [Request.AsksForItem, itemRequest, Request.mk.injEq, true_and, and_true]
  rfl

theorem labelRequest_postsLabel_iff (rooted : c.base.path = .rooted guarded path)
    (web : isWeb c.base = true) (id : String) (submission : Submission) :
    (c.labelRequest id submission).PostsLabel c.base id submission ↔ Plain id := by
  rw [← Url.exists_named_iff rooted (ne_file_of_isWeb web) (.inr rfl)]
  simp only [Request.PostsLabel, labelRequest, Request.mk.injEq, true_and, and_true]
  rfl

end Client
end Http
end ReviewDesk
