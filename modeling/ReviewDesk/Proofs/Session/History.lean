import ReviewDesk.Proofs.Session.Step

/-!
A session together with its journal. Answers come in any order and any number of times, but only for
tickets that are on record. What every step keeps holds after any actions.
-/

namespace ReviewDesk
namespace Session

namespace Entry

def load? : Entry → Option LoadTicket
  | .loadAsked ticket => some ticket
  | _ => none

def select? : Entry → Option SelectTicket
  | .selectAsked ticket => some ticket
  | _ => none

def submit? : Entry → Option SubmitTicket
  | .submitAsked ticket => some ticket
  | _ => none

end Entry

/-- What was put on record, the newest entry first. -/
abbrev Journal := List Entry

namespace Journal

/-- The tickets for loads, the last one first. -/
def loads (j : Journal) : List LoadTicket := j.filterMap Entry.load?

theorem mem_loads {j : Journal} {ticket : LoadTicket} :
    ticket ∈ j.loads ↔ .loadAsked ticket ∈ j := by
  rw [loads, List.mem_filterMap]
  constructor
  · rintro ⟨entry, member, found⟩
    cases entry with
    | loadAsked other =>
        cases found
        exact member
    | _ => cases found
  · exact fun member => ⟨.loadAsked ticket, member, rfl⟩

def selects (j : Journal) : List SelectTicket := j.filterMap Entry.select?

def submits (j : Journal) : List SubmitTicket := j.filterMap Entry.submit?

end Journal

/-- An entry about an answer answers a ticket that is on record. -/
def Entry.Backed (j : Journal) : Entry → Prop
  | .pageCame ticket _ _ => ticket ∈ j.loads
  | .detailCame ticket _ _ => ticket ∈ j.selects
  | .savedCame ticket _ => ticket ∈ j.submits
  | _ => True

structure History where
  session : Session
  journal : Journal := []

namespace History

def start (filter : Filter) (labels : List String) (user : Option String) : History where
  session := .start filter labels user

/-- Only what was asked for is answered. -/
def Admits (h : History) : Action → Prop
  | .page ticket _ => ticket ∈ h.journal.loads
  | .detail ticket _ => ticket ∈ h.journal.selects
  | .saved ticket _ => ticket ∈ h.journal.submits
  | _ => True

instance (h : History) : DecidablePred h.Admits
  | .page ticket _ => inferInstanceAs (Decidable (ticket ∈ h.journal.loads))
  | .detail ticket _ => inferInstanceAs (Decidable (ticket ∈ h.journal.selects))
  | .saved ticket _ => inferInstanceAs (Decidable (ticket ∈ h.journal.submits))
  | .load _ => inferInstanceAs (Decidable True)
  | .select _ => inferInstanceAs (Decidable True)
  | .submit => inferInstanceAs (Decidable True)
  | .edit _ => inferInstanceAs (Decidable True)

/-- Goes on with an action; one that is not admitted cannot happen. -/
def act (h : History) (a : Action) : History :=
  if h.Admits a then ⟨h.session.act a, h.session.entries a ++ h.journal⟩ else h

def acts (h : History) (actions : List Action) : History :=
  actions.foldl act h

theorem act_of_admits {h : History} {a : Action} (admitted : h.Admits a) :
    h.act a = ⟨h.session.act a, h.session.entries a ++ h.journal⟩ := if_pos admitted

@[simp] theorem acts_nil (h : History) : h.acts [] = h := rfl

@[simp] theorem acts_cons (h : History) (a : Action) (actions : List Action) :
    h.acts (a :: actions) = (h.act a).acts actions := rfl

/-- The entries of an action answer only what the action was admitted for. -/
theorem backed_of_admits {h : History} {a : Action} (admitted : h.Admits a) :
    ∀ entry ∈ h.session.entries a, entry.Backed h.journal := by
  apply forall_mem_entries (P := Entry.Backed h.journal) h.session a (fun _ => trivial)
    (fun _ => trivial) (fun _ => trivial)
  · rintro ticket answer outcome rfl
    exact admitted
  · rintro ticket answer outcome rfl
    exact admitted
  · rintro ticket answer rfl
    exact admitted

/-- A property of the session and its journal that every step keeps. -/
def Invariant (P : Session → Journal → Prop) : Prop :=
  ∀ (s : Session) (j : Journal) (entries : List Entry) (s' : Session),
    s.Step entries s' → (∀ entry ∈ entries, entry.Backed j) → P s j → P s' (entries ++ j)

theorem act_keeps {P : Session → Journal → Prop} (invariant : Invariant P) (h : History)
    (a : Action) (holds : P h.session h.journal) : P (h.act a).session (h.act a).journal := by
  by_cases admitted : h.Admits a
  · rw [act_of_admits admitted]
    exact invariant _ _ _ _ (h.session.step_act a) (backed_of_admits admitted) holds
  · rw [act, if_neg admitted]
    exact holds

theorem acts_keeps {P : Session → Journal → Prop} (invariant : Invariant P) (h : History)
    (actions : List Action) (holds : P h.session h.journal) :
    P (h.acts actions).session (h.acts actions).journal := by
  induction actions generalizing h with
  | nil => exact holds
  | cons a rest ih => exact ih (h.act a) (act_keeps invariant h a holds)

end History

end Session
end ReviewDesk
