import ReviewDesk.Proofs.Session.Filters
import ReviewDesk.Proofs.Text.Trim

/-!
Filters stay tidy. The one that a session starts with asks for an item at least and names a detector
only by a trimmed text; every ticket that is issued afterwards, to turn a page, to change the filter,
to load again or to correct a load, has such a filter too.
-/

namespace ReviewDesk

variable {σ : Type}

/-- At least one item is asked for, and a detector has a name without blanks around it. -/
structure Filter.Tidy (f : Filter) : Prop where
  limit : 1 ≤ f.limit.toNat
  detector : ∀ id, f.detector = some id → ¬Text.Blank id ∧ Text.trim id = id

namespace Filter

theorem Tidy.moved {f : Filter} (tidy : f.Tidy) (offset : UInt64) :
    Tidy { f with offset := offset } :=
  ⟨tidy.limit, tidy.detector⟩

theorem tidy_normalized (pendingOnly : Bool) (detector : Option String) (limit offset : UInt64) :
    (normalized pendingOnly detector limit offset).Tidy where
  limit := normalized_limit_pos pendingOnly detector limit offset
  detector id named := by
    obtain ⟨text, -, trimmed⟩ := Option.bind_eq_some_iff.mp named
    have own := Text.trimmed_of_mem_trimToOption trimmed
    exact ⟨own.not_blank, own.trim_eq⟩

/-- A filter is made from another by moving it, or as a filter that is typed is. -/
theorem inherited_tidy : Inherited Tidy := by
  intro f g makes tidy
  cases makes with
  | again => exact tidy
  | forward | back | last => exact tidy.moved _
  | anew | resized => exact tidy_normalized ..

end Filter

namespace Session

/-- A filter that is asked for as it stands is tidy. -/
def Action.Tidy : Action → Prop
  | .load filter => filter.Tidy
  | _ => True

def Event.Tidy : Event σ → Prop
  | .action a => a.Tidy
  | .loadNow filter _ => filter.Tidy
  | _ => True

/-- The filter of the page is tidy, and so are those of all tickets on record. -/
structure TidyLoads (s : Session) (j : Journal) : Prop where
  filter : s.queue.filter.Tidy
  tickets : ∀ ticket ∈ j.loads, ticket.filter.Tidy

theorem Event.Tidy.asks {e : Event σ} (tidy : e.Tidy) : e.Asks Filter.Tidy := by
  cases e with
  | action a =>
      cases a with
      | load filter => exact tidy
      | page | select | detail | submit | saved | edit => trivial
  | loadNow filter state => exact tidy
  | refresh | nextPage | prevPage | setDetector | togglePending | stepLimit | chooseLabel |
    selectNow | submitNow => trivial

theorem Step.asks_tidy {s s' : Session} {entries : List Entry} (step : s.Step entries s')
    (filter : s.queue.filter.Tidy)
    (came : ∀ ticket answer outcome, .pageCame ticket answer outcome ∈ entries →
      ticket.filter.Tidy)
    (asked : ∀ ticket, entries = [.loadAsked ticket] → ticket.filter.Tidy) :
    s'.queue.filter.Tidy ∧ ∀ ticket, .loadAsked ticket ∈ entries → ticket.filter.Tidy :=
  step.asks Filter.inherited_tidy filter came asked

theorem History.run_keeps_tidy (service : Service σ) {h : History} {events : List (Event σ)}
    (asked : ∀ e ∈ events, e.Tidy) (tidy : TidyLoads h.session h.journal) :
    TidyLoads (h.run service events).session (h.run service events).journal := by
  obtain ⟨filter, tickets⟩ := run_keeps_loadsHave Filter.inherited_tidy service
    (fun e member => (asked e member).asks) ⟨tidy.filter, tidy.tickets⟩
  exact ⟨filter, tickets⟩

end Session
end ReviewDesk
