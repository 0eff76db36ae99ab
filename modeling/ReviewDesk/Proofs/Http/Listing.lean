import ReviewDesk.Proofs.Decimal.Spelling
import ReviewDesk.Proofs.Http.Errand
import ReviewDesk.Proofs.Http.Loading
import ReviewDesk.Proofs.Session.Tidy
import ReviewDesk.Proofs.Url.Form

/-!
Requests for a page. The query of their address is a form with the filter in it: its page size, its
place, whether only pending items are wanted, and the detector if there is one. No two filters have
the same address.
-/

namespace ReviewDesk

/-- The parameters say what the filter says and nothing else. -/
structure Filter.SpelledBy (f : Filter) (pairs : List (String × String)) : Prop where
  names : pairs.map Prod.fst =
    ["limit", "offset", "pending_only"] ++ if f.detector.isSome then ["detector_id"] else []
  limit : (pairs.lookup "limit").bind Decimal.word64? = some f.limit
  offset : (pairs.lookup "offset").bind Decimal.word64? = some f.offset
  pendingOnly : pairs.lookup "pending_only" = some (toString f.pendingOnly)
  detector : pairs.lookup "detector_id" = f.detector

namespace Filter

theorem spelledBy_query (f : Filter) : f.SpelledBy f.query := by
  obtain ⟨pendingOnly, detector, limit, offset⟩ := f
  have pending : (if pendingOnly then "true" else "false") = toString pendingOnly := by
    cases pendingOnly <;> rfl
  cases detector with
  | none | some id =>
      exact ⟨rfl, Decimal.word64?_toString limit, Decimal.word64?_toString offset,
        congrArg some pending, rfl⟩

/-- Parameters tell the filter. -/
theorem SpelledBy.unique {f g : Filter} {pairs : List (String × String)} (one : f.SpelledBy pairs)
    (two : g.SpelledBy pairs) : f = g := by
  have limit := Option.some.inj (one.limit.symm.trans two.limit)
  have offset := Option.some.inj (one.offset.symm.trans two.offset)
  have pending := Option.some.inj (one.pendingOnly.symm.trans two.pendingOnly)
  have detector := one.detector.symm.trans two.detector
  have pendingOnly : f.pendingOnly = g.pendingOnly := by
    revert pending
    cases f.pendingOnly <;> cases g.pendingOnly <;> decide
  obtain ⟨_, _, _, _⟩ := f
  obtain ⟨_, _, _, _⟩ := g
  dsimp only at limit offset pendingOnly detector
  subst limit offset pendingOnly detector
  rfl

end Filter

namespace Http.Client

open Session (History Event)
open Url (readForm)

variable {σ : Type} {c : Client}

theorem query_listRequest (bare : c.base.query.getD "" = "") (f : Filter) :
    (c.listRequest f).url.query = some (String.ofList (Url.formPairs f.query)) := by
  have added : (c.listRequest f).url.query = some (c.base.query.getD "" ++
      (if (c.base.query.getD "").isEmpty then "" else "&") ++
        String.ofList (Url.formPairs f.query)) := rfl
  rw [added, bare]
  simp

/-- Addresses of pages differ in their queries only. -/
theorem query_eq_of_text_eq {f g : Filter}
    (same : (c.listRequest f).url.text = (c.listRequest g).url.text) :
    (c.listRequest f).url.query = (c.listRequest g).url.query := by
  have asked (f : Filter) : ∃ query, (c.listRequest f).url.query = some query := ⟨_, rfl⟩
  obtain ⟨left, first⟩ := asked f
  obtain ⟨right, second⟩ := asked g
  simp only [Url.text, Url.target, first, second] at same
  simp only [listRequest, Url.endpoint, String.append_left_inj, String.append_right_inj,
    Option.elim_some] at same
  rw [first, second, same]

/-- Whatever is done in a session that starts with a normalized filter, pages are asked for by tidy
filters; the query of the address asked for says what the filter says and nothing else; and no two
filters share an address. -/
theorem list_requests_carry_the_filter (service : Service σ) (pendingOnly : Bool)
    (detector : Option String) (limit offset : UInt64) (labels : List String)
    (user : Option String) (events : List (Event σ)) (asked : ∀ e ∈ events, e.Tidy) (c : Client)
    (bare : c.base.query.getD "" = "") :
    let start := History.start (.normalized pendingOnly detector limit offset) labels user
    (∀ ticket ∈ (start.run service events).journal.loads, ticket.filter.Tidy) ∧
    (∀ (f : Filter) log, (c.service.list f log).2 = c.listRequest f :: log ∧
      ∃ query, (c.listRequest f).url.query = some query ∧ f.SpelledBy (readForm query.toList)) ∧
    ∀ f g : Filter, (c.listRequest f).url.text = (c.listRequest g).url.text → f = g := by
  intro start
  have spelled (f : Filter) : ∃ query, (c.listRequest f).url.query = some query ∧
      f.SpelledBy (readForm query.toList) := by
    refine ⟨_, query_listRequest bare f, ?_⟩
    rw [String.toList_ofList, Url.readForm_formPairs]
    exact f.spelledBy_query
  refine ⟨?_, fun f log => ⟨rfl, spelled f⟩, ?_⟩
  · have tidy : Session.TidyLoads start.session start.journal :=
      ⟨Filter.tidy_normalized pendingOnly detector limit offset, nofun⟩
    exact (History.run_keeps_tidy service asked tidy).tickets
  · intro f g same
    obtain ⟨left, first, ofFirst⟩ := spelled f
    obtain ⟨right, second, ofSecond⟩ := spelled g
    rw [query_eq_of_text_eq same, second] at first
    cases first
    exact ofFirst.unique ofSecond

/-- A filter for a detector whose name has signs of a form in it. -/
def gateFilter : Filter :=
  .normalized false (some " gate & é=1+2 ") 0 7

/-- From that filter on the page size is changed, and the page is loaded again. -/
def gateEvents : List (Event Script) :=
  [.stepLimit true, .action (.load gateFilter), .togglePending, .refresh]

theorem gate_filter_is_carried :
    (∀ e ∈ gateEvents, e.Tidy) ∧ localClient.base.query.getD "" = "" ∧
      (localClient.listRequest gateFilter).url.query =
        some "limit=1&offset=7&pending_only=false&detector_id=gate+%26+%C3%A9%3D1%2B2" ∧
      (∀ ticket ∈ ((History.start gateFilter [] none).run Script.service gateEvents).journal.loads,
        ticket.filter.Tidy) ∧
      ∃ query, (localClient.listRequest gateFilter).url.query = some query ∧
        gateFilter.SpelledBy (readForm query.toList) := by
  have asked : ∀ e ∈ gateEvents, e.Tidy := by
    simp only [gateEvents, List.forall_mem_cons]
    exact ⟨trivial, Filter.tidy_normalized _ _ _ _, trivial, trivial, List.forall_mem_nil _⟩
  obtain ⟨tidy, carried, -⟩ := list_requests_carry_the_filter Script.service false
    (some " gate & é=1+2 ") 0 7 [] none gateEvents asked localClient rfl
  exact ⟨asked, rfl, by decide +kernel, tidy, (carried gateFilter []).2⟩

end Http.Client
end ReviewDesk
