import ReviewDesk.Proofs.Session.Correction

/-!
The filters that a session asks for. Some it is told to load; every other one is made from a filter
it had: by turning a page, by going back to the last page, by starting anew with other items, or by a
change of the page size. A property that is handed on from each filter to those made from it holds
of all of them if it holds of the first one and of those it is told to load.
-/

namespace ReviewDesk

variable {σ : Type}

/-- The second filter is made from the first one. -/
inductive Filter.Makes (f : Filter) : Filter → Prop where
  | again : Makes f f
  | forward (total : UInt64) (more : saturatingAdd f.offset f.limit < total) :
      Makes f { f with offset := saturatingAdd f.offset f.limit }
  | back (started : 0 < f.offset) : Makes f { f with offset := saturatingSub f.offset f.limit }
  | last (total : UInt64) (past : total ≤ f.offset) : Makes f (Queue.lastPage f total)
  | anew (pendingOnly : Bool) (detector : Option String) :
      Makes f (.normalized pendingOnly detector f.limit 0)
  | resized (grow : Bool) (limit : UInt64)
      (stepped : Session.steppedLimit f.limit grow = some limit) :
      Makes f (.normalized f.pendingOnly f.detector limit (f.offset / limit * limit))

/-- A filter hands the property on to those that are made from it. -/
def Filter.Inherited (P : Filter → Prop) : Prop :=
  ∀ ⦃f g : Filter⦄, f.Makes g → P f → P g

namespace Session

/-- A filter that is to be loaded as it stands has the property. -/
def Action.Asks (P : Filter → Prop) : Action → Prop
  | .load filter => P filter
  | _ => True

def Event.Asks (P : Filter → Prop) : Event σ → Prop
  | .action a => a.Asks P
  | .loadNow filter _ => P filter
  | _ => True

/-- The filter of the page has the property, and so have those of all tickets on record. -/
structure LoadsHave (P : Filter → Prop) (s : Session) (j : Journal) : Prop where
  filter : P s.queue.filter
  tickets : ∀ ticket ∈ j.loads, P ticket.filter

variable {P : Filter → Prop} {s s' : Session} {j : Journal} {entries : List Entry}

-- only an action that asks for a filter of its own can bring in one that is not made from another
theorem Step.asks (inherited : Filter.Inherited P) (step : s.Step entries s')
    (filter : P s.queue.filter)
    (came : ∀ ticket answer outcome, .pageCame ticket answer outcome ∈ entries → P ticket.filter)
    (asked : ∀ ticket, entries = [.loadAsked ticket] → P ticket.filter) :
    P s'.queue.filter ∧ ∀ ticket, .loadAsked ticket ∈ entries → P ticket.filter := by
  cases step with
  | load filter =>
      refine ⟨asked _ rfl, fun ticket member => ?_⟩
      cases List.mem_singleton.mp member
      exact asked _ rfl
  | pagePast ticket page next latest past corrected =>
      have before := came ticket _ _ (List.mem_cons_of_mem _ List.mem_cons_self)
      obtain ⟨-, -, beyond, -⟩ := Queue.overshoots_iff.mp past
      have last := inherited (.last page.total beyond) before
      subst corrected
      refine ⟨last, fun other member => ?_⟩
      rcases List.mem_pair.mp member with same | same
      · cases same
        exact last
      · cases same
  | savedElsewhere | savedShown | savedAwaited =>
      refine ⟨filter, fun other member => ?_⟩
      rcases List.mem_pair.mp member with same | same
      · cases same
        exact filter
      · cases same
  | pageStale | pageFailed | pageAccepted | select | detailStale | detailVanished |
    detailFailed | detailApplied | submitRefused | submitSent | saveFailed | edit =>
      exact ⟨filter, by simp⟩

theorem Step.keeps_loadsHave (inherited : Filter.Inherited P) (step : s.Step entries s')
    (backed : ∀ entry ∈ entries, entry.Backed j)
    (asked : ∀ ticket, entries = [.loadAsked ticket] → P ticket.filter)
    (inv : LoadsHave P s j) : LoadsHave P s' (entries ++ j) := by
  obtain ⟨filter, tickets⟩ := step.asks inherited inv.filter
    (fun ticket _ _ came => inv.tickets ticket (backed _ came)) asked
  refine ⟨filter, fun ticket member => ?_⟩
  rw [Journal.loads_append, List.mem_append] at member
  rcases member with new | before
  · exact tickets ticket (Journal.mem_loads.mp new)
  · exact inv.tickets ticket before

/-- An action that only issues a ticket for a load asks for the filter of that ticket. -/
theorem eq_load_of_entries {a : Action} {ticket : LoadTicket}
    (lone : s.entries a = [.loadAsked ticket]) : a = .load ticket.filter := by
  cases a with
  | load filter =>
      cases lone
      rfl
  | page ticket' answer | saved ticket' answer =>
      have last := congrArg List.getLast? lone
      simp [Session.entries] at last
  | submit =>
      cases issued : s.beginSubmit.2.toOption with
      | none | some ticket' => simp [Session.entries, issued] at lone
  | select id | detail ticket' answer | edit form => cases lone

variable {ticket : LoadTicket} {grow : Bool}

theorem makes_of_nextPage (turned : s.nextPage.2 = some ticket) :
    s.queue.filter.Makes ticket.filter := by
  by_cases more : s.queue.paging.nextEnabled = true
  · rw [nextPage, if_pos more] at turned
    cases turned
    exact .forward s.queue.total (of_decide_eq_true more)
  · rw [nextPage, if_neg more] at turned
    cases turned

theorem makes_of_prevPage (turned : s.prevPage.2 = some ticket) :
    s.queue.filter.Makes ticket.filter := by
  by_cases started : s.queue.paging.prevEnabled = true
  · rw [prevPage, if_pos started] at turned
    cases turned
    exact .back (of_decide_eq_true started)
  · rw [prevPage, if_neg started] at turned
    cases turned

theorem makes_of_stepLimit (changed : (s.stepLimit grow).2 = some ticket) :
    s.queue.filter.Makes ticket.filter := by
  cases stepped : steppedLimit s.queue.filter.limit grow with
  | none =>
      simp only [stepLimit, stepped] at changed
      cases changed
  | some limit =>
      simp only [stepLimit, stepped] at changed
      cases changed
      exact .resized grow limit stepped

namespace History

/-- What may be loaded has the property if it is made from the filter of the page. -/
theorem asks_of_made (inherited : Filter.Inherited P) (filter : P s.queue.filter)
    {made : Option LoadTicket}
    (makes : ∀ ticket, made = some ticket → s.queue.filter.Makes ticket.filter) :
    ∀ a ∈ (made.map fun ticket => Action.load ticket.filter).toList, a.Asks P := by
  cases made with
  | none => exact List.forall_mem_nil _
  | some ticket => exact List.forall_mem_singleton.mpr (inherited (makes ticket rfl) filter)

/-- The answers that a driven load takes in ask for nothing. -/
theorem asks_of_drivenPages (service : Service σ) (q : Queue) (ticket : LoadTicket) (state : σ) :
    ∀ a ∈ drivenPages service q ticket state, a.Asks P := by
  induction q, ticket, state using Queue.drive.induct service with
  | case1 q ticket state reply q' next past _ ih =>
      rw [drivenPages_of_reissue service past]
      exact List.forall_mem_cons.mpr ⟨trivial, ih⟩
  | case2 q ticket state reply q' outcome settled answered =>
      rw [drivenPages_of_settled service (fun next eq => settled next eq) answered]
      exact List.forall_mem_singleton.mpr trivial

theorem asks_of_submitNow (service : Service σ) (s : Session) (state : σ) :
    ∀ a ∈ Event.actions service s (.submitNow state), a.Asks P := by
  refine List.forall_mem_cons.mpr ⟨trivial, ?_⟩
  split
  · exact List.forall_mem_nil _
  · refine List.forall_mem_cons.mpr ⟨trivial, ?_⟩
    split
    · exact List.forall_mem_nil _
    · exact asks_of_drivenPages service _ _ _

theorem asks_of_actions (inherited : Filter.Inherited P) (service : Service σ) {e : Event σ}
    (asked : e.Asks P) (filter : P s.queue.filter) : ∀ a ∈ e.actions service s, a.Asks P := by
  cases e with
  | action a => exact List.forall_mem_singleton.mpr asked
  | refresh => exact List.forall_mem_singleton.mpr filter
  | nextPage => exact asks_of_made inherited filter fun _ => makes_of_nextPage
  | prevPage => exact asks_of_made inherited filter fun _ => makes_of_prevPage
  | stepLimit grow => exact asks_of_made inherited filter fun _ => makes_of_stepLimit
  | setDetector detector =>
      exact List.forall_mem_singleton.mpr (inherited (.anew _ detector) filter)
  | togglePending => exact List.forall_mem_singleton.mpr (inherited (.anew _ _) filter)
  | chooseLabel index => exact List.forall_mem_singleton.mpr trivial
  | loadNow filter state =>
      exact List.forall_mem_cons.mpr ⟨asked, asks_of_drivenPages service _ _ state⟩
  | selectNow id state =>
      exact List.forall_mem_cons.mpr ⟨trivial, List.forall_mem_singleton.mpr trivial⟩
  | submitNow state => exact asks_of_submitNow service s state

variable {h : History}

theorem act_keeps_loadsHave (inherited : Filter.Inherited P) {a : Action} (asked : a.Asks P)
    (inv : LoadsHave P h.session h.journal) :
    LoadsHave P (h.act a).session (h.act a).journal := by
  by_cases admitted : h.Admits a
  · rw [act_of_admits admitted]
    refine (h.session.step_act a).keeps_loadsHave inherited (backed_of_admits admitted) ?_ inv
    intro ticket lone
    rw [eq_load_of_entries lone] at asked
    exact asked
  · rw [act, if_neg admitted]
    exact inv

theorem acts_keep_loadsHave (inherited : Filter.Inherited P) {actions : List Action}
    (asked : ∀ a ∈ actions, a.Asks P) (inv : LoadsHave P h.session h.journal) :
    LoadsHave P (h.acts actions).session (h.acts actions).journal := by
  induction actions generalizing h with
  | nil => exact inv
  | cons a rest ih =>
      obtain ⟨first, others⟩ := List.forall_mem_cons.mp asked
      exact ih others (act_keeps_loadsHave inherited first inv)

theorem perform_keeps_loadsHave (inherited : Filter.Inherited P) (service : Service σ)
    {e : Event σ} (asked : e.Asks P) (inv : LoadsHave P h.session h.journal) :
    LoadsHave P (h.perform service e).session (h.perform service e).journal := by
  rw [perform_eq_acts]
  exact acts_keep_loadsHave inherited (asks_of_actions inherited service asked inv.filter) inv

theorem run_keeps_loadsHave (inherited : Filter.Inherited P) (service : Service σ)
    {events : List (Event σ)} (asked : ∀ e ∈ events, e.Asks P)
    (inv : LoadsHave P h.session h.journal) :
    LoadsHave P (h.run service events).session (h.run service events).journal := by
  induction events generalizing h with
  | nil => exact inv
  | cons e rest ih =>
      obtain ⟨first, others⟩ := List.forall_mem_cons.mp asked
      exact ih others (perform_keeps_loadsHave inherited service first inv)

end History

end Session
end ReviewDesk
