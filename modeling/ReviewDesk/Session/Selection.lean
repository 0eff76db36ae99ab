import ReviewDesk.Fault
import ReviewDesk.Item.Basic

/-!
The item that is open. A selection gets a ticket with the next number; only the answer to the last
ticket counts, and only while the item is on the page. Tickets are numbered without an end, as those
for loads are; a number is left out for each detail that a saved item overtakes.
-/

namespace ReviewDesk

structure SelectTicket where
  /-- A word where fewer than 2^64 numbers were given out or left out. -/
  seq : Nat
  id : String
deriving DecidableEq

inductive SelectOutcome where
  | applied
  | stale
  | vanished
  | failed (fault : TransportFault)
deriving DecidableEq

structure Selection where
  current : Option String := none
  detail : Option Item := none
  /-- The item that is being fetched. -/
  pending : Option String := none
  /-- The items of the page. -/
  visible : List String := []
  fault : Option TransportFault := none
  /-- The number of the last ticket. -/
  issued : Nat := 0
deriving DecidableEq

namespace Selection

def beginSelect (s : Selection) (id : String) : Selection × SelectTicket :=
  ({ s with issued := s.issued + 1, pending := some id }, ⟨s.issued + 1, id⟩)

def applySelect (s : Selection) (ticket : SelectTicket) (answer : Except TransportFault Item) :
    Selection × SelectOutcome :=
  if ticket.seq ≠ s.issued then (s, .stale)
  else
    let s := { s with pending := none }
    if ticket.id ∉ s.visible then (s, .vanished)
    else
      match answer with
      | .ok item => ({ s with current := some ticket.id, detail := some item, fault := none },
          .applied)
      | .error fault => ({ s with fault := some fault }, .failed fault)

def clear (s : Selection) : Selection :=
  { s with current := none, detail := none, fault := none }

/-- Takes over the items of a new page; an open item that is not among them is closed. -/
def reconcile (s : Selection) (items : List Item) : Selection :=
  let s := { s with visible := items.map Item.id }
  match s.current with
  | none => s
  | some id => if id ∈ s.visible then s else s.clear

/-- Takes over a saved item when it is the open one. A detail of it still on its way is older, so
its ticket is outdated. -/
def applySubmitted (s : Selection) (item : Item) : Selection × Bool :=
  if s.current ≠ some item.id then (s, false)
  else
    let s := if s.pending = some item.id then { s with issued := s.issued + 1, pending := none }
      else s
    ({ s with detail := some item, fault := none }, true)

end Selection
end ReviewDesk
