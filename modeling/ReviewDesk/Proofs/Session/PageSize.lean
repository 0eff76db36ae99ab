import Mathlib.Data.List.Infix
import ReviewDesk.Proofs.Session.LastPage
import ReviewDesk.Proofs.Session.Tidy

/-!
Changing the size of a page. The sizes form a ladder that is climbed one rung at a time; a size off
the ladder goes to the default one. The page of the new size that holds the first item shown is
asked for, so that item stays in view.
-/

namespace ReviewDesk

variable {σ : Type}

namespace Filter

/-- The size that follows another in a direction: its neighbour on the ladder, or the default one
for a size that is not on it. -/
def Follows (grow : Bool) (old new : UInt64) : Prop :=
  if old ∈ limitChoices then
    (if grow then [old, new] else [new, old]) <:+: limitChoices
  else new = defaultLimit

/-- The size is the last one in a direction. -/
def Ends (grow : Bool) (limit : UInt64) : Prop :=
  (if grow then limitChoices.getLast? else limitChoices.head?) = some limit

/-- What is asked for after a change of the page size: the page of the new size on which the old
one begins, of the same items. -/
structure Resized (grow : Bool) (old new : Filter) : Prop where
  limit : Follows grow old.limit new.limit
  aligned : new.limit.toNat ∣ new.offset.toNat
  before : new.offset ≤ old.offset
  within : old.offset.toNat < new.offset.toNat + new.limit.toNat
  pendingOnly : new.pendingOnly = old.pendingOnly
  detector : new.detector = old.detector.bind Text.trimToOption

/-- Trimming changes nothing where the text is trimmed, and only there. -/
theorem trimmed_detector_iff {f : Filter} :
    f.detector.bind Text.trimToOption = f.detector ↔
      ∀ id, f.detector = some id → ¬Text.Blank id ∧ Text.trim id = id := by
  cases f.detector with
  | none => simp
  | some id =>
      rw [Option.bind_some]
      constructor
      · rintro same _ ⟨⟩
        have own := Text.trimmed_of_mem_trimToOption same
        exact ⟨own.not_blank, own.trim_eq⟩
      · intro trimmed
        obtain ⟨counts, same⟩ := trimmed id rfl
        rw [Text.trimToOption_of_not_blank counts, same]

instance (grow : Bool) (old new : UInt64) : Decidable (Follows grow old new) := by
  unfold Follows; infer_instance

instance (grow : Bool) (limit : UInt64) : Decidable (Ends grow limit) := by
  unfold Ends; infer_instance

end Filter

namespace Session

open ReviewDesk.Filter (Follows Ends)

variable {limit next : UInt64} {grow : Bool}

theorem steppedLimit_of_mem (member : limit ∈ Filter.limitChoices) (grow : Bool) :
    (steppedLimit limit grow = none ↔ Ends grow limit) ∧
      ∀ next ∈ steppedLimit limit grow, Follows grow limit next ∧ 0 < next := by
  simp only [Filter.limitChoices, List.mem_cons, List.not_mem_nil, or_false] at member
  -- the ladder is short: every rung in both directions
  rcases member with rfl | rfl | rfl | rfl <;> cases grow <;>
    refine ⟨by decide, ?_⟩ <;> rintro next ⟨⟩ <;> decide

theorem steppedLimit_of_notMem (other : limit ∉ Filter.limitChoices) (grow : Bool) :
    steppedLimit limit grow = some Filter.defaultLimit := by
  have none : Filter.limitChoices.findIdx? (· = limit) = none := by
    rw [List.findIdx?_eq_none_iff]
    intro choice member
    exact decide_eq_false fun same => other (same ▸ member)
  rw [steppedLimit, none]

theorem mem_of_ends (ends : Ends grow limit) : limit ∈ Filter.limitChoices := by
  cases grow with
  | false => exact List.mem_of_mem_head? ends
  | true => exact List.mem_of_mem_getLast? ends

theorem steppedLimit_eq_none_iff : steppedLimit limit grow = none ↔ Ends grow limit := by
  by_cases member : limit ∈ Filter.limitChoices
  · exact (steppedLimit_of_mem member grow).1
  · rw [steppedLimit_of_notMem member]
    exact ⟨nofun, fun ends => (member (mem_of_ends ends)).elim⟩

theorem follows_of_steppedLimit (stepped : steppedLimit limit grow = some next) :
    Follows grow limit next ∧ 0 < next := by
  by_cases member : limit ∈ Filter.limitChoices
  · exact (steppedLimit_of_mem member grow).2 next stepped
  · rw [steppedLimit_of_notMem member] at stepped
    cases stepped
    exact ⟨by rw [Follows, if_neg member], by decide⟩

theorem aligned_toNat (offset limit : UInt64) :
    (offset / limit * limit).toNat = offset.toNat / limit.toNat * limit.toNat := by
  have bound := Nat.div_mul_le_self offset.toNat limit.toNat
  rw [UInt64.toNat_mul, UInt64.toNat_div]
  exact Nat.mod_eq_of_lt (Nat.lt_of_le_of_lt bound offset.toNat_lt)

theorem resized_of_steppedLimit {f : Filter} (stepped : steppedLimit f.limit grow = some next) :
    f.Resized grow (.normalized f.pendingOnly f.detector next (f.offset / next * next)) := by
  obtain ⟨follows, pos⟩ := follows_of_steppedLimit stepped
  have pos' : 0 < next.toNat := UInt64.lt_iff_toNat_lt.mp pos
  have kept : (if next = 0 then 1 else next) = next := if_neg (UInt64.pos_iff_ne_zero.mp pos)
  have offset := aligned_toNat f.offset next
  have below := Nat.div_mul_le_self f.offset.toNat next.toNat
  have above := Nat.lt_div_mul_add pos' (a := f.offset.toNat)
  rw [Filter.normalized, kept]
  exact {
    limit := follows
    aligned := offset ▸ Nat.dvd_mul_left _ _
    before := UInt64.le_iff_toNat_le.mpr (offset ▸ below)
    within := offset ▸ above
    pendingOnly := rfl
    detector := rfl }

variable {s : Session} {ticket : LoadTicket}

theorem stepLimit_of_ends (ends : Ends grow s.queue.filter.limit) :
    s.stepLimit grow = (s, none) := by
  simp only [stepLimit, steppedLimit_eq_none_iff.mpr ends]

theorem stepLimit_eq_none_iff : (s.stepLimit grow).2 = none ↔ Ends grow s.queue.filter.limit := by
  constructor
  · intro none
    rw [← steppedLimit_eq_none_iff]
    cases stepped : steppedLimit s.queue.filter.limit grow with
    | none => rfl
    | some next =>
        simp only [stepLimit, stepped] at none
        cases none
  · intro ends
    rw [stepLimit_of_ends ends]

/-- What is asked for at any other place. -/
theorem resized_of_stepLimit (asked : (s.stepLimit grow).2 = some ticket) :
    s.beginLoad ticket.filter = ((s.stepLimit grow).1, ticket) ∧
      s.queue.filter.Resized grow ticket.filter := by
  cases stepped : steppedLimit s.queue.filter.limit grow with
  | none =>
      simp only [stepLimit, stepped] at asked
      cases asked
  | some next =>
      simp only [stepLimit, stepped] at asked ⊢
      cases asked
      exact ⟨rfl, resized_of_steppedLimit stepped⟩

end Session

namespace SteadyQueue

variable {q : SteadyQueue} {f g : Filter} {grow : Bool} {first : Item}

theorem page_getElem? (q : SteadyQueue) (f : Filter) (i : Nat) :
    (q.page f).items[i]? =
      if i < f.limit.toNat then q.items[f.offset.toNat + i]? else none := by
  rw [page, List.getElem?_take, List.getElem?_drop]

theorem getElem?_of_page {i : Nat} (shown : (q.page f).items[i]? = some first) :
    q.items[f.offset.toNat + i]? = some first := by
  rw [page_getElem?] at shown
  split at shown
  · exact shown
  · cases shown

/-- The page of the new size does not lie past the end, and it has the item that was shown first. -/
theorem accepted_resized (s : Session) (resized : f.Resized grow g)
    (shown : (q.page f).items[0]? = some first) :
    ∃ s', (s.beginLoad g).1.onQueueResult (s.beginLoad g).2 (.ok (q.page g)) = (s', .accepted) ∧
      s'.queue.items[f.offset.toNat - g.offset.toNat]? = some first := by
  have stands := getElem?_of_page shown
  obtain ⟨inside, -⟩ := List.getElem?_eq_some_iff.mp stands
  have before := UInt64.le_iff_toNat_le.mp resized.before
  have within := resized.within
  obtain ⟨s', accepted, queue⟩ := q.accepted s g (by omega) (.inr (by omega))
  refine ⟨s', accepted, ?_⟩
  rw [queue]
  dsimp only
  rw [page_getElem?, if_pos (by omega), ← stands]
  congr 1
  omega

end SteadyQueue

namespace Session

open ReviewDesk.Filter (Ends)

/-- A change of the page size goes one rung along the ladder, or on to it, and there is none at its
ends alone. What is asked for is the page of the new size that holds the place where the old page
begins, of the detector's trimmed name: on a queue that does not change it is accepted at once, and
the item that was shown first is on it. The detector stays if there is none or its name is trimmed,
and only then; so it always stays in a session that starts with such a filter and is not made to load
another. -/
theorem page_size_keeps_the_place (service : Service σ) :
    (∀ (s : Session) grow,
      ((s.stepLimit grow).2 = none ↔ Ends grow s.queue.filter.limit) ∧
      ((s.stepLimit grow).2 = none → (s.stepLimit grow).1 = s) ∧
      ∀ ticket, (s.stepLimit grow).2 = some ticket →
        s.queue.filter.Resized grow ticket.filter ∧
        (ticket.filter.detector = s.queue.filter.detector ↔
          ∀ id, s.queue.filter.detector = some id → ¬Text.Blank id ∧ Text.trim id = id) ∧
        ∀ (q : SteadyQueue) first rest, s.queue.items = first :: rest →
          s.queue.items = (q.page s.queue.filter).items →
          ∃ s', (s.stepLimit grow).1.onQueueResult ticket (.ok (q.page ticket.filter)) =
              (s', .accepted) ∧
            first ∈ s'.queue.items ∧
            s'.queue.items[s.queue.filter.offset.toNat - ticket.filter.offset.toNat]? =
              some first) ∧
    ∀ pendingOnly detector limit offset labels user (events : List (Event σ)),
      (∀ e ∈ events, e.Tidy) →
      let start := History.start (.normalized pendingOnly detector limit offset) labels user
      let s := (start.run service events).session
      ∀ grow ticket, (s.stepLimit grow).2 = some ticket →
        ticket.filter.detector = s.queue.filter.detector := by
  constructor
  · intro s grow
    refine ⟨stepLimit_eq_none_iff, fun none => ?_, ?_⟩
    · rw [stepLimit_of_ends (stepLimit_eq_none_iff.mp none)]
    intro ticket asked
    obtain ⟨load, resized⟩ := resized_of_stepLimit asked
    refine ⟨resized, ?_, ?_⟩
    · rw [resized.detector]
      exact Filter.trimmed_detector_iff
    intro q first rest begins page
    have shown : (q.page s.queue.filter).items[0]? = some first := by
      rw [← page, begins]
      rfl
    obtain ⟨s', accepted, kept⟩ := SteadyQueue.accepted_resized s resized shown
    rw [load] at accepted
    exact ⟨s', accepted, List.mem_of_getElem? kept, kept⟩
  · intro pendingOnly detector limit offset labels user events asked start s grow ticket issued
    have tidy : TidyLoads start.session start.journal :=
      ⟨Filter.tidy_normalized pendingOnly detector limit offset, nofun⟩
    have kept := History.run_keeps_tidy service asked tidy
    rw [(resized_of_stepLimit issued).2.detector]
    exact Filter.trimmed_detector_iff.mpr kept.filter.detector

/-- Off the ladder: the page begins with the second of three items, and the longer one has it as its
second. -/
theorem shown_item_stays_in_view :
    let q : SteadyQueue := ⟨[{ id := "a" }, { id := "b" }, { id := "c" }], by decide⟩
    let f : Filter := { limit := 2, offset := 1 }
    let s : Session := { start f [] none with queue := { filter := f, items := (q.page f).items } }
    ∃ ticket s', (s.stepLimit true).2 = some ticket ∧
      ticket.filter = { limit := 50, offset := 0 } ∧
      (s.stepLimit true).1.onQueueResult ticket (.ok (q.page ticket.filter)) = (s', .accepted) ∧
      s'.queue.items[1]? = some { id := "b" } := by
  intro q f s
  obtain ⟨ofSession, -⟩ := page_size_keeps_the_place Script.service
  obtain ⟨-, -, asks⟩ := ofSession s true
  have asked : (s.stepLimit true).2 = some ⟨1, { limit := 50, offset := 0 }, false⟩ := by
    decide +kernel
  obtain ⟨-, -, lands⟩ := asks _ asked
  obtain ⟨s', accepted, -, shown⟩ := lands q { id := "b" } [{ id := "c" }] (by decide +kernel) rfl
  exact ⟨_, s', asked, rfl, accepted, shown⟩

/-- A filter that was not made by trimming: the change of its page size trims it. -/
theorem padded_detector_is_trimmed :
    let s := start { detector := some " a " } [] none
    1 ≤ s.queue.filter.limit ∧ ∃ ticket, (s.stepLimit true).2 = some ticket ∧
      ticket.filter.detector = some "a" ∧ ticket.filter.detector ≠ s.queue.filter.detector := by
  refine ⟨by decide, _, rfl, by decide +kernel, by decide +kernel⟩

end Session

end ReviewDesk
