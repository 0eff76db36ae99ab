import ReviewDesk.Proofs.Http.Errand
import ReviewDesk.Proofs.Http.Sending
import ReviewDesk.Proofs.Json.Value

/-!
Documents in envelopes. An envelope is known by the name of its member alone, whatever kind of
document was asked for: a camera stream comes out of its envelope, and so does a rule for alerts that
has a member of that name, of which nothing else is left. All other documents come back as they are.
-/

namespace ReviewDesk

namespace Json

variable {name : String} {value inner : Json}

/-- What a document comes to where there may be an envelope of that name around it. -/
inductive Opens (name : String) : Json → Json → Prop where
  | bare {value : Json} (plain : value.get? name = none) : Opens name value value
  | wrapped {value inner : Json} (member : value.get? name = some inner) : Opens name value inner

theorem sizeOf_get?_lt (member : value.get? name = some inner) : sizeOf inner < sizeOf value := by
  cases value with
  | members fields =>
      obtain ⟨before, after, same, -⟩ := List.lookup_eq_some_iff.mp member
      have inside : (name, inner) ∈ fields := by simp [same]
      exact sizeOf_lt_members inside
  | null | bool _ | number _ | string _ | array _ => cases member

/-- No document is a member of itself, so one that comes back as it is was in no envelope. -/
theorem opens_self_iff : Opens name value value ↔ value.get? name = none := by
  constructor
  · intro opened
    cases opened with
    | bare plain => exact plain
    | wrapped member => exact (Nat.lt_irrefl _ (sizeOf_get?_lt member)).elim
  · exact .bare

end Json

namespace ResourceAction

open Json (Opens)

variable {client : Http.Client} {kind : ResourceKind} {action : ResourceAction}
  {log : List Http.Request} {name : String} {value inner : Json}

theorem openEnvelope_eq_iff : openEnvelope value name = inner ↔ Opens name value inner := by
  rw [openEnvelope]
  cases found : value.get? name with
  | none =>
      constructor
      · rintro rfl
        exact .bare found
      · rintro (_ | member)
        · rfl
        · rw [found] at member
          cases member
  | some member =>
      constructor
      · rintro rfl
        exact .wrapped found
      · rintro (plain | same)
        · rw [found] at plain
          cases plain
        · rw [found] at same
          exact Option.some.inj same

/-- The action is about one document, and that document is the answer to it. -/
def IsSingle : ResourceAction → Prop
  | .get _ => True
  | .create _ => True
  | .update _ _ => True
  | .list => False
  | .delete _ => False

/-- The request of an action. -/
def httpRequest (client : Http.Client) (kind : ResourceKind) (action : ResourceAction) :
    Http.Request :=
  ⟨action.request.1, client.base.endpoint (kind.collection ++ action.request.2.1) [],
    action.request.2.2⟩

/-- The action is answered with a document. -/
def Answered (client : Http.Client) (kind : ResourceKind) (action : ResourceAction)
    (log : List Http.Request) (value : Json) : Prop :=
  ∃ response : Http.Response,
    Http.reply client.server (action.httpRequest client kind) log = .ok response ∧
      response.document = .ok value

theorem perform_of_answered (answered : action.Answered client kind log value) :
    (action.perform client kind log).1 = action.result kind value := by
  obtain ⟨response, answer, document⟩ := answered
  have sent : (action.perform client kind log).1 =
      (Http.exchange client.server (action.httpRequest client kind) log).1.bind
        (action.result kind) := rfl
  rw [sent, Http.exchange, answer]
  exact congrArg (Except.bind · (action.result kind)) document

theorem result_of_isSingle (single : action.IsSingle) (kind : ResourceKind) (value : Json) :
    action.result kind value = .ok (openEnvelope value "item") := by
  cases action with
  | get id | create body | update id body => rfl
  | list | delete id => cases single

/-- A list without its elements is an empty one; what is no list is none. -/
inductive Listed : Json → List Json → Prop where
  | array (elements : List Json) : Listed (.array elements) elements
  | null : Listed .null []

variable {elements : List Json}

theorem result_list_of_listed (opened : Opens "items" value inner) (listed : Listed inner elements) :
    list.result kind value = .ok (.array elements) := by
  rw [result, openEnvelope_eq_iff.mpr opened]
  cases listed with
  | array | null => rfl

theorem result_list_of_other (opened : Opens "items" value inner)
    (other : ∀ elements, ¬Listed inner elements) :
    list.result kind value =
      .error (.decode ("expected a list of " ++ kind.label ++ ", got " ++ inner.compact)) := by
  rw [result, openEnvelope_eq_iff.mpr opened]
  cases inner with
  | array elements => exact (other elements (.array elements)).elim
  | null => exact (other [] .null).elim
  | bool _ | number _ | string _ | members _ => rfl

theorem result_list_cases (kind : ResourceKind) (value : Json) :
    ∃ inner, Opens "items" value inner ∧
      ((∃ elements, Listed inner elements ∧ list.result kind value = .ok (.array elements)) ∨
        (∀ elements, ¬Listed inner elements) ∧ list.result kind value =
          .error (.decode ("expected a list of " ++ kind.label ++ ", got " ++ inner.compact))) := by
  have opened : Opens "items" value (openEnvelope value "items") := openEnvelope_eq_iff.mp rfl
  refine ⟨_, opened, ?_⟩
  by_cases listed : ∃ elements, Listed (openEnvelope value "items") elements
  · obtain ⟨elements, listed⟩ := listed
    exact .inl ⟨elements, listed, result_list_of_listed opened listed⟩
  · have other := not_exists.mp listed
    exact .inr ⟨other, result_list_of_other opened other⟩

theorem result_list_eq_ok_iff {reply : Json} : list.result kind value = .ok reply ↔
    ∃ inner elements, Opens "items" value inner ∧ Listed inner elements ∧
      reply = .array elements := by
  constructor
  · intro replied
    obtain ⟨inner, opened, ⟨elements, listed, result⟩ | ⟨-, result⟩⟩ :=
      result_list_cases kind value
    · rw [result] at replied
      exact ⟨inner, elements, opened, listed, (Except.ok.inj replied).symm⟩
    · rw [result] at replied
      cases replied
  · rintro ⟨inner, elements, opened, listed, rfl⟩
    exact result_list_of_listed opened listed

theorem result_list_eq_error_iff {fault : TransportFault} :
    list.result kind value = .error fault ↔
      ∃ inner, Opens "items" value inner ∧ (∀ elements, ¬Listed inner elements) ∧
        fault = .decode ("expected a list of " ++ kind.label ++ ", got " ++ inner.compact) := by
  constructor
  · intro failed
    obtain ⟨inner, opened, ⟨elements, -, result⟩ | ⟨other, result⟩⟩ :=
      result_list_cases kind value
    · rw [result] at failed
      cases failed
    · rw [result] at failed
      exact ⟨inner, opened, other, (Except.error.inj failed).symm⟩
  · rintro ⟨inner, opened, other, rfl⟩
    exact result_list_of_other opened other

/-- Whatever the kind, the answer about one document comes back as it is exactly when it has no
member `item`, and otherwise that member alone does. A list is what the answer, or its member
`items`, has for elements, all of them in their order; what is neither an array nor `null` is none,
and the fault shows it. -/
theorem documents_are_opened_by_name (client : Http.Client) (kind : ResourceKind)
    (log : List Http.Request) (value : Json) :
    (∀ action : ResourceAction, action.IsSingle → action.Answered client kind log value →
      ((action.perform client kind log).1 = .ok value ↔ value.get? "item" = none) ∧
      ∀ inner, (action.perform client kind log).1 = .ok inner ↔ Opens "item" value inner) ∧
    (list.Answered client kind log value →
      (∀ reply, (list.perform client kind log).1 = .ok reply ↔
        ∃ inner elements, Opens "items" value inner ∧ Listed inner elements ∧
          reply = .array elements) ∧
      ∀ fault, (list.perform client kind log).1 = .error fault ↔
        ∃ inner, Opens "items" value inner ∧ (∀ elements, ¬Listed inner elements) ∧
          fault =
            .decode ("expected a list of " ++ kind.label ++ ", got " ++ inner.compact)) := by
  constructor
  · intro action single answered
    have replies (inner : Json) :
        (action.perform client kind log).1 = .ok inner ↔ Opens "item" value inner := by
      rw [perform_of_answered answered, result_of_isSingle single, Except.ok.injEq]
      exact openEnvelope_eq_iff
    exact ⟨(replies value).trans Json.opens_self_iff, replies⟩
  · intro answered
    rw [perform_of_answered answered]
    exact ⟨fun reply => result_list_eq_ok_iff, fun fault => result_list_eq_error_iff⟩

/-- A rule for alerts with a member `item`. -/
def doorRule : Json :=
  .members [("id", .string "a"), ("item", .string "door")]

def doorAnswer : Http.Response :=
  { status := 200, bytes := doorRule.compact.toList.map fun c => UInt8.ofNat c.toNat }

def doorClient : Http.Client :=
  { Http.localClient with server := Http.scripted [doorAnswer] }

/-- The rule comes back as what its member says, although rules come in no envelope. -/
theorem rule_with_item_is_opened :
    (get "a").Answered doorClient .alertRules [] doorRule ∧
      ((get "a").perform doorClient .alertRules []).1 = .ok (.string "door") ∧
      Json.string "door" ≠ doorRule := by
  have replied : Http.reply doorClient.server (httpRequest doorClient .alertRules (get "a")) [] =
      .ok (doorAnswer.received "GET") := Http.reply_of_answered rfl rfl rfl rfl
  have answered : (get "a").Answered doorClient .alertRules [] doorRule :=
    ⟨doorAnswer, replied, by with_unfolding_all rfl⟩
  refine ⟨answered, ?_, ?_⟩
  · rw [perform_of_answered answered]
    rfl
  · intro same
    cases same

end ResourceAction
end ReviewDesk
