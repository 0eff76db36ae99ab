import ReviewDesk.Proofs.Session.Correction

/-!
Paging through a queue that does not change. Turning its pages to the end shows every item once, in
the order of the queue, and turning them back shows the same pages again. No turn lies past the end,
so none is corrected.
-/

namespace ReviewDesk

/-- The latest load is settled by a page that does not lie past the end. -/
theorem Session.onQueueResult_of_shown (s : Session) {ticket : LoadTicket} {page : Page}
    (latest : ticket.seq = s.queue.issued) (shown : Queue.overshoots ticket page = false) :
    s.onQueueResult ticket (.ok page) =
      ({ s with
        queue := { s.queue with items := ticket.kept page, total := page.total, status := .ready }
        selection := s.selection.reconcile (ticket.kept page) }, .accepted) := by
  simp [onQueueResult, Queue.applyLoad, latest, shown, reconcile, LoadTicket.kept]

/-- A queue of which a server always answers the same. -/
structure SteadyQueue where
  items : List Item
  /-- Answers tell how many items there are. -/
  countable : items.length < UInt64.size

namespace SteadyQueue

variable (q : SteadyQueue)

def total : UInt64 := UInt64.ofNat q.items.length

/-- The answer to a request: the items from the offset on, no more than the limit. -/
def page (filter : Filter) : Page :=
  ⟨(q.items.drop filter.offset.toNat).take filter.limit.toNat, q.total⟩

/-- The items of a page, when each has that many. -/
def part (limit number : Nat) : List Item :=
  (q.items.drop (number * limit)).take limit

def pageCount (limit : Nat) : Nat :=
  max 1 ((q.items.length + limit - 1) / limit)

theorem total_toNat : q.total.toNat = q.items.length :=
  UInt64.toNat_ofNat_of_lt' q.countable

variable {q} {limit number : Nat}

/-- A page that is not the first begins before the end. -/
theorem lt_pageCount_iff (pos : 0 < limit) :
    number < q.pageCount limit ↔ number = 0 ∨ number * limit < q.items.length :=
  lt_max_one_div_iff pos

theorem flatMap_part (count : Nat) :
    (List.range count).flatMap (q.part limit) = q.items.take (count * limit) := by
  induction count with
  | zero => simp
  | succ count ih =>
      rw [List.range_succ, List.flatMap_append, ih, Nat.succ_mul, List.take_add]
      simp [part]

theorem flatMap_part_pageCount (pos : 0 < limit) :
    (List.range (q.pageCount limit)).flatMap (q.part limit) = q.items := by
  have past : ¬(q.pageCount limit = 0 ∨ q.pageCount limit * limit < q.items.length) :=
    fun before => Nat.lt_irrefl _ ((lt_pageCount_iff pos).mpr before)
  rw [flatMap_part]
  exact List.take_of_length_le (by omega)

theorem page_eq_nil_iff {filter : Filter} (pos : 0 < filter.limit.toNat) :
    (q.page filter).items = [] ↔ q.items.length ≤ filter.offset.toNat := by
  rw [page, ← List.length_eq_zero_iff, List.length_take, List.length_drop]
  omega

/-- A page lies past the end when it begins there, unless it begins at the start. -/
theorem overshoots_page_iff (ticket : LoadTicket) (pos : 0 < ticket.filter.limit.toNat) :
    Queue.overshoots ticket (q.page ticket.filter) = true ↔
      0 < ticket.filter.offset.toNat ∧ q.items.length ≤ ticket.filter.offset.toNat ∧
        ticket.corrective = false := by
  rw [Queue.overshoots_iff, page_eq_nil_iff pos, UInt64.lt_iff_toNat_lt, UInt64.le_iff_toNat_le,
    page, total_toNat]
  change _ ∧ 0 < _ ∧ _ ↔ _
  tauto

/-- A request that does not begin past the end is answered by a page, which is accepted. -/
theorem accepted (q : SteadyQueue) (s : Session) (filter : Filter) (pos : 0 < filter.limit.toNat)
    (within : filter.offset.toNat = 0 ∨ filter.offset.toNat < q.items.length) :
    ∃ s', (s.beginLoad filter).1.onQueueResult (s.beginLoad filter).2 (.ok (q.page filter)) =
        (s', .accepted) ∧
      s'.queue = ⟨filter, (q.page filter).items, q.total, .ready, s.queue.issued + 1⟩ := by
  have shown : Queue.overshoots ⟨s.queue.issued + 1, filter, false⟩ (q.page filter) = false := by
    apply Bool.eq_false_iff.mpr
    intro overshot
    obtain ⟨started, past, -⟩ := (overshoots_page_iff _ pos).mp overshot
    dsimp only at started past
    omega
  have kept : (q.page filter).items.take filter.limit.toNat = (q.page filter).items :=
    List.take_of_length_le (List.length_take_le _ _)
  refine ⟨_, Session.onQueueResult_of_shown _ rfl shown, ?_⟩
  rw [LoadTicket.kept, Session.beginLoad, Queue.beginLoad, Queue.issue, kept, page]

end SteadyQueue

namespace Session

/-- Pages are turned until there is none to turn to: each time a page is asked for and the answer
is handed in. On record are the outcomes, and the items that are there after each. -/
inductive Turned (turn : Session → Session × Option LoadTicket) (server : Filter → Page) :
    Session → List (LoadOutcome × List Item) → Session → Prop where
  | ended {s s' : Session} (last : turn s = (s', none)) : Turned turn server s [] s'
  | turned {s asking s' last : Session} {ticket : LoadTicket} {outcome : LoadOutcome}
      {turns : List (LoadOutcome × List Item)} (begun : turn s = (asking, some ticket))
      (answered : asking.onQueueResult ticket (.ok (server ticket.filter)) = (s', outcome))
      (rest : Turned turn server s' turns last) :
      Turned turn server s ((outcome, s'.queue.items) :: turns) last

variable {turn : Session → Session × Option LoadTicket} {server : Filter → Page}

theorem Turned.unique {s last last' : Session} {turns turns' : List (LoadOutcome × List Item)}
    (one : Turned turn server s turns last) (two : Turned turn server s turns' last') :
    turns = turns' ∧ last = last' := by
  induction one generalizing turns' last' with
  | ended none =>
      cases two with
      | ended none' =>
          rw [none] at none'
          cases none'
          exact ⟨rfl, rfl⟩
      | turned begun => simp [none] at begun
  | turned begun answered _ ih =>
      cases two with
      | ended none => simp [none] at begun
      | turned begun' answered' rest =>
          rw [begun] at begun'
          cases begun'
          rw [answered] at answered'
          cases answered'
          obtain ⟨rfl, rfl⟩ := ih rest
          exact ⟨rfl, rfl⟩

theorem Turned.iff {s last last' : Session} {turns turns' : List (LoadOutcome × List Item)}
    (one : Turned turn server s turns last) :
    Turned turn server s turns' last' ↔ turns' = turns ∧ last' = last := by
  constructor
  · exact fun other => other.unique one
  · rintro ⟨rfl, rfl⟩
    exact one

/-- The session has accepted the page of that number, the first being zero. -/
structure Shows (q : SteadyQueue) (filter : Filter) (number : Nat) (s : Session) : Prop where
  asked : ∃ offset, s.queue.filter = { filter with offset := offset } ∧
    offset.toNat = number * filter.limit.toNat
  items : s.queue.items = q.part filter.limit.toNat number
  total : s.queue.total = q.total
  counted : number < q.pageCount filter.limit.toNat

namespace Shows

variable {q : SteadyQueue} {filter : Filter} {number : Nat} {s : Session}

theorem of_load (pos : 0 < filter.limit.toNat) (s : Session) (offset : UInt64)
    (start : offset.toNat = number * filter.limit.toNat)
    (counted : number < q.pageCount filter.limit.toNat) :
    let load := s.beginLoad { filter with offset := offset }
    ∃ s', load.1.onQueueResult load.2 (.ok (q.page load.2.filter)) = (s', .accepted) ∧
      Shows q filter number s' := by
  have within : offset.toNat = 0 ∨ offset.toNat < q.items.length := by
    rcases (SteadyQueue.lt_pageCount_iff pos).mp counted with rfl | before
    · left
      rw [start, Nat.zero_mul]
    · right
      rw [start]
      exact before
  obtain ⟨s', accepted, queue⟩ := q.accepted s { filter with offset := offset } pos within
  refine ⟨s', accepted, ⟨offset, ?_, start⟩, ?_, ?_, counted⟩
  · rw [queue]
  · rw [queue, SteadyQueue.part, ← start, SteadyQueue.page]
  · rw [queue]

theorem next_toNat (shows : Shows q filter number s) (pos : 0 < filter.limit.toNat)
    (before : (number + 1) * filter.limit.toNat < q.items.length) :
    s.queue.paging.next.toNat = (number + 1) * filter.limit.toNat := by
  obtain ⟨offset, same, start⟩ := shows.asked
  have bound := q.countable
  rw [Paging.next_toNat, Queue.paging, same]
  dsimp only
  rw [start]
  rw [Nat.succ_mul] at before ⊢
  omega

theorem nextEnabled_iff (shows : Shows q filter number s) (pos : 0 < filter.limit.toNat) :
    s.queue.paging.nextEnabled = true ↔ number + 1 < q.pageCount filter.limit.toNat := by
  obtain ⟨offset, same, start⟩ := shows.asked
  rw [SteadyQueue.lt_pageCount_iff pos, Paging.nextEnabled_iff, Queue.paging, same, shows.total,
    SteadyQueue.total_toNat]
  dsimp only
  rw [start, Nat.succ_mul]
  omega

theorem turn_forward (shows : Shows q filter number s) (pos : 0 < filter.limit.toNat)
    (more : number + 1 < q.pageCount filter.limit.toNat) :
    ∃ asking ticket s', s.nextPage = (asking, some ticket) ∧
      asking.onQueueResult ticket (.ok (q.page ticket.filter)) = (s', .accepted) ∧
      Shows q filter (number + 1) s' := by
  have enabled := (shows.nextEnabled_iff pos).mpr more
  have before := ((SteadyQueue.lt_pageCount_iff pos).mp more).resolve_left (Nat.succ_ne_zero _)
  obtain ⟨offset, same, start⟩ := shows.asked
  obtain ⟨s', accepted, shown⟩ := of_load pos s _ (shows.next_toNat pos before) more
  refine ⟨_, _, s', ?_, accepted, shown⟩
  rw [nextPage, if_pos enabled, loadAt, same]

theorem turn_back (shows : Shows q filter (number + 1) s) (pos : 0 < filter.limit.toNat) :
    ∃ asking ticket s', s.prevPage = (asking, some ticket) ∧
      asking.onQueueResult ticket (.ok (q.page ticket.filter)) = (s', .accepted) ∧
      Shows q filter number s' := by
  obtain ⟨offset, same, start⟩ := shows.asked
  have counted := Nat.lt_of_succ_lt shows.counted
  rw [Nat.succ_mul] at start
  have back : s.queue.paging.prev.toNat = number * filter.limit.toNat := by
    rw [Paging.prev_toNat, Queue.paging, same]
    dsimp only
    omega
  have enabled : s.queue.paging.prevEnabled = true := by
    rw [Paging.prevEnabled_iff, Queue.paging, same]
    dsimp only
    omega
  obtain ⟨s', accepted, shown⟩ := of_load pos s _ back counted
  refine ⟨_, _, s', ?_, accepted, shown⟩
  rw [prevPage, if_pos enabled, loadAt, same]

theorem offset_eq_zero (shows : Shows q filter 0 s) : s.queue.filter.offset = 0 := by
  obtain ⟨offset, same, start⟩ := shows.asked
  rw [Nat.zero_mul] at start
  rw [same]
  exact UInt64.toNat_inj.mp start

/-- Turning forward shows the pages that follow, up to the last one. -/
theorem forward (more : Nat) (shows : Shows q filter number s) (pos : 0 < filter.limit.toNat)
    (left : number + 1 + more = q.pageCount filter.limit.toNat) :
    ∃ last, Turned nextPage q.page s
        ((List.range' (number + 1) more).map fun n => (.accepted, q.part filter.limit.toNat n))
        last ∧
      Shows q filter (number + more) last := by
  -- by the number of pages that are left
  induction more generalizing number s with
  | zero =>
      refine ⟨s, .ended ?_, shows⟩
      have disabled : s.queue.paging.nextEnabled = false := by
        apply Bool.eq_false_iff.mpr
        rw [ne_eq, shows.nextEnabled_iff pos]
        omega
      simp [nextPage, disabled]
  | succ more ih =>
      obtain ⟨asking, ticket, s', begun, accepted, shown⟩ := shows.turn_forward pos (by omega)
      obtain ⟨last, turned, final⟩ := ih shown (by omega)
      refine ⟨last, ?_, ?_⟩
      · have first := Turned.turned begun accepted turned
        rw [shown.items] at first
        exact first
      · rw [show number + (more + 1) = number + 1 + more by omega]
        exact final

/-- Turning back shows the pages before, down to the first one. -/
theorem back (shows : Shows q filter number s) (pos : 0 < filter.limit.toNat) :
    ∃ home, Turned prevPage q.page s
        ((List.range number).reverse.map fun n => (.accepted, q.part filter.limit.toNat n)) home ∧
      Shows q filter 0 home := by
  induction number generalizing s with
  | zero =>
      refine ⟨s, .ended ?_, shows⟩
      simp [prevPage, Queue.paging, Paging.prevEnabled, shows.offset_eq_zero]
  | succ number ih =>
      obtain ⟨asking, ticket, s', begun, accepted, shown⟩ := shows.turn_back pos
      obtain ⟨home, turned, final⟩ := ih shown
      refine ⟨home, ?_, final⟩
      have first := Turned.turned begun accepted turned
      rw [shown.items] at first
      rw [List.range_succ, List.reverse_append]
      exact first

end Shows

/-- From the first page of a queue that does not change, pages can be turned in one way only, and no
turn is corrected. As many pages as the queue fills are shown, one when it is empty; end to end they
are the queue. Turned back from there, the same pages are shown again down to the first. -/
theorem pages_make_up_the_queue (q : SteadyQueue) (filter : Filter) (pos : 0 < filter.limit)
    (s : Session) :
    ∃ first forward last backward home,
      let load := s.beginLoad { filter with offset := 0 }
      load.1.onQueueResult load.2 (.ok (q.page load.2.filter)) = (first, .accepted) ∧
      (∀ turns s', Turned nextPage q.page first turns s' ↔ turns = forward ∧ s' = last) ∧
      (∀ turns s', Turned prevPage q.page last turns s' ↔ turns = backward ∧ s' = home) ∧
      (∀ turn ∈ forward ++ backward, turn.1 = .accepted) ∧
      let pages := first.queue.items :: forward.map Prod.snd
      pages.length =
        max 1 ((q.items.length + filter.limit.toNat - 1) / filter.limit.toNat) ∧
      pages.flatten = q.items ∧
      backward.map Prod.snd = pages.dropLast.reverse ∧
      home.queue.filter.offset = 0 := by
  have pos' : 0 < filter.limit.toNat := UInt64.lt_iff_toNat_lt.mp pos
  have counted : 0 < q.pageCount filter.limit.toNat :=
    (SteadyQueue.lt_pageCount_iff pos').mpr (.inl rfl)
  obtain ⟨more, count⟩ := Nat.exists_eq_add_one.mpr counted
  obtain ⟨first, accepted, shows⟩ := Shows.of_load pos' s 0 (Nat.zero_mul _).symm counted
  obtain ⟨last, forward, ended⟩ := shows.forward more pos' (by omega)
  obtain ⟨home, backward, begun⟩ := ended.back pos'
  have pages : first.queue.items ::
      (List.range' 1 more).map (q.part filter.limit.toNat) =
        (List.range (more + 1)).map (q.part filter.limit.toNat) := by
    rw [shows.items, List.range_eq_range', List.range'_succ, List.map_cons]
  refine ⟨first, _, last, _, home, accepted, fun turns s' => forward.iff,
    fun turns s' => backward.iff, ?_, ?_, ?_, ?_, begun.offset_eq_zero⟩
  · intro turn member
    rcases List.mem_append.mp member with ahead | behind
    · obtain ⟨n, -, rfl⟩ := List.mem_map.mp ahead
      rfl
    · obtain ⟨n, -, rfl⟩ := List.mem_map.mp behind
      rfl
  · simpa [SteadyQueue.pageCount] using count.symm
  · rw [List.map_map]
    refine (congrArg List.flatten pages).trans ?_
    rw [← List.flatMap_def, ← count]
    exact SteadyQueue.flatMap_part_pageCount pos'
  · rw [List.map_map, List.map_map]
    refine Eq.trans ?_ (congrArg (fun all => all.dropLast.reverse) pages).symm
    simp [List.range_succ, Function.comp_def]

/-- Three items two at a time: one turn forward, one back. -/
theorem three_items_make_two_pages :
    let q : SteadyQueue := ⟨[{ id := "a" }, { id := "b" }, { id := "c" }], by decide⟩
    let filter : Filter := { limit := 2, offset := 7 }
    0 < filter.limit ∧ ∃ first forward last backward home,
      Turned nextPage q.page first forward last ∧ Turned prevPage q.page last backward home ∧
      (first.queue.items :: forward.map Prod.snd).flatten = q.items ∧
      forward.length = 1 ∧ backward.length = 1 := by
  intro q filter
  have pos : 0 < filter.limit := by decide
  refine ⟨pos, ?_⟩
  obtain ⟨first, forward, last, backward, home, -, ahead, behind, -, count, whole, again, -⟩ :=
    pages_make_up_the_queue q filter pos (start filter [] none)
  have one : forward.length = 1 := by
    have two : max 1 ((q.items.length + filter.limit.toNat - 1) / filter.limit.toNat) = 2 := by
      decide
    rw [two, List.length_cons, List.length_map] at count
    exact Nat.succ.inj count
  refine ⟨first, forward, last, backward, home, (ahead _ _).mpr ⟨rfl, rfl⟩,
    (behind _ _).mpr ⟨rfl, rfl⟩, whole, one, ?_⟩
  have length := congrArg List.length again
  simpa [one] using length

end Session
end ReviewDesk
