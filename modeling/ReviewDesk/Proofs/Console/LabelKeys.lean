import ReviewDesk.CommandLine.Reader
import ReviewDesk.Proofs.Console.Keys
import ReviewDesk.Proofs.Paging
import ReviewDesk.Proofs.Session.LabelForm
import ReviewDesk.Proofs.Session.Operation

/-!
The keys of the labels. The vocabulary of a session is the one that it was started with, and its
first nine labels are shown beside the keys one to nine. Such a key puts the label beside it into the
form, where it is the one that is marked and submitted; a digit that no label stands beside only
leaves a notice.
-/

namespace ReviewDesk

namespace View

/-- The key beside the label at a place. -/
def labelKey (index : ℕ) : Char := Nat.digitChar (index + 1)

theorem labelKey_is_digit : ∀ index < 9, '1' ≤ labelKey index ∧ labelKey index ≤ '9' ∧
    (labelKey index).toNat - '1'.toNat = index := by
  decide

theorem exists_labelKey {digit : Char} (low : '1' ≤ digit) (high : digit ≤ '9') :
    ∃ index < 9, digit = labelKey index := by
  have least : 49 ≤ digit.toNat := low
  have most : digit.toNat ≤ 57 := high
  have known : ∀ index < 9, Char.ofNat (49 + index) = labelKey index := by decide
  refine ⟨digit.toNat - 49, by omega, ?_⟩
  rw [← known _ (by omega), Nat.add_sub_cancel' least, Char.ofNat_toNat]

theorem mem_choicesOf_iff {labels : List String} {chosen : String} {choice : Choice} :
    choice ∈ choicesOf labels chosen ↔ ∃ index < 9, labels[index]? = some choice.label ∧
      choice.key = labelKey index ∧ choice.chosen = decide (chosen = choice.label) := by
  rw [choicesOf, List.mem_map]
  constructor
  · rintro ⟨⟨label, index⟩, member, rfl⟩
    have found := List.mem_zipIdx_iff_getElem?.mp member
    rw [List.getElem?_take] at found
    split at found
    case isTrue lt => exact ⟨index, lt, found, rfl, rfl⟩
    case isFalse => cases found
  · rintro ⟨index, lt, found, key, marked⟩
    refine ⟨(choice.label, index), List.mem_zipIdx_iff_getElem?.mpr ?_, ?_⟩
    · rw [List.getElem?_take_of_lt lt, found]
    · cases choice
      simp_all [labelKey]

theorem choicesOf_labels (labels : List String) (chosen : String) :
    (choicesOf labels chosen).map Choice.label = labels.take 9 := by
  rw [choicesOf, List.map_map]
  exact List.zipIdx_map_fst 0 _

theorem choicesOf_keys (labels : List String) (chosen : String) :
    (choicesOf labels chosen).map Choice.key = "123456789".toList.take labels.length := by
  have places : (choicesOf labels chosen).map Choice.key =
      (((labels.take 9).zipIdx).map Prod.snd).map labelKey := by
    rw [choicesOf, List.map_map, List.map_map]
    rfl
  have keys : "123456789".toList = (List.range 9).map labelKey := by decide
  rw [places, List.zipIdx_map_snd, keys, ← List.map_take, ← List.range_eq_range', List.take_range,
    List.length_take, Nat.min_comm]

/-- Another label in the form changes only which choices are marked. -/
theorem choicesOf_mark (labels : List String) (before after : String) :
    choicesOf labels after = (choicesOf labels before).map fun choice =>
      { choice with chosen := after = choice.label } := by
  rw [choicesOf, choicesOf, List.map_map]
  rfl

end View

namespace LabelForm

/-- The form is not refused for its label, and the label that is sent is that one. -/
structure Carries (f : LabelForm) (label : String) : Prop where
  accepted : ∀ id, f.validate (some id) ≠ .error .missingLabel
  sent : ∀ current submission, f.validate current = .ok submission → submission.label = label

theorem carries_label {f : LabelForm} (trimmed : Text.Trimmed f.label) : f.Carries f.label where
  accepted id failed := by
    cases validate_eq_error_iff.mp failed with
    | label _ blank => exact trimmed.not_blank blank
  sent current submission valid := by
    obtain ⟨-, gives⟩ := validate_eq_ok_iff.mp valid
    rw [gives.label, trimmed.trim_eq]

theorem Carries.ticket {f : LabelForm} {label : String} (carries : f.Carries label)
    {current : Option String} {ticket : SubmitTicket}
    (issued : (f.beginSubmit current).2 = .ok ticket) : ticket.submission.label = label := by
  cases valid : f.validate current with
  | error fault =>
      simp only [beginSubmit, valid] at issued
      cases issued
  | ok submission =>
      simp only [beginSubmit, valid] at issued
      cases issued
      exact carries.sent current submission valid

end LabelForm

namespace Session

variable {σ : Type}

theorem Step.labels_eq {s s' : Session} {entries : List Entry} (step : s.Step entries s') :
    s'.labels = s.labels := by
  cases step <;> rfl

theorem History.labels_run (service : Service σ) (h : History) (events : List (Event σ)) :
    (h.run service events).session.labels = h.session.labels :=
  run_keeps (P := fun s _ => s.labels = h.session.labels)
    (fun _ _ _ _ step _ same => step.labels_eq.trans same) service h events rfl

end Session

theorem Options.trimmed_of_mem_labels {o : Options} {label : String} (member : label ∈ o.labels) :
    Text.Trimmed label := by
  obtain ⟨raw, -, trimmed⟩ := List.mem_filterMap.mp member
  exact Text.trimmed_of_mem_trimToOption trimmed

namespace Console

variable (c : Console) {key : KeyPress} {digit : Char}

theorem isQuit_digit (code : key.code = .char digit) (high : digit ≤ '9') :
    isQuit key = false := by
  have small : ∀ letter, '9' < letter → digit ≠ letter :=
    fun letter above same => absurd (same ▸ high) (Char.not_le.mpr above)
  simp [isQuit, code, small 'q' (by decide), small 'c' (by decide)]

-- no digit from one to nine is the letter of a command
theorem handleKey_digit (code : key.code = .char digit) (low : '1' ≤ digit) (high : digit ≤ '9') :
    c.handleKey key = c.chooseLabel digit := by
  rw [c.handleKey_char code (isQuit_digit code high)]
  unfold handleChar
  split
  case h_7 | h_8 | h_10 => exact absurd low (by decide)
  case h_17 => rw [if_pos ⟨low, high⟩]
  all_goals exact absurd high (by decide)

theorem chooseLabel_labelKey {index : ℕ} (lt : index < 9) :
    c.chooseLabel (View.labelKey index) = match c.session.labels[index]? with
      | some label => c.mapForm (·.set .label label)
      | none => c.warn ("No label bound to " ++ (View.labelKey index).toString) := by
  rw [chooseLabel, (View.labelKey_is_digit index lt).2.2, Session.chooseLabel]
  cases c.session.labels[index]? with
  | some label => rfl
  | none => rfl

theorem chooseLabel_of_choice {choice : View.Choice}
    (shown : choice ∈ c.session.formView.choices) :
    c.chooseLabel choice.key = c.mapForm (·.set .label choice.label) := by
  obtain ⟨index, lt, found, same, -⟩ := View.mem_choicesOf_iff.mp shown
  rw [same, c.chooseLabel_labelKey lt, found]

theorem chooseLabel_of_free (low : '1' ≤ digit) (high : digit ≤ '9')
    (free : ∀ choice ∈ c.session.formView.choices, choice.key ≠ digit) :
    c.chooseLabel digit = c.warn ("No label bound to " ++ digit.toString) := by
  obtain ⟨index, lt, rfl⟩ := View.exists_labelKey low high
  rw [c.chooseLabel_labelKey lt]
  cases found : c.session.labels[index]? with
  | none => rfl
  | some label =>
      exact (free ⟨View.labelKey index, label, decide (c.session.form.label = label)⟩
        (View.mem_choicesOf_iff.mpr ⟨index, lt, found, rfl, rfl⟩) rfl).elim

/-- In every session with the labels of the command line, a digit that stands beside a label puts
this label into the form: it alone is marked then, the form is not refused for its label, and the
label is submitted as it is. Any other digit only leaves a notice. The first nine labels stand
beside the digits, one after the other. Every view of a session has its form. -/
theorem digit_submits_label_beside {σ : Type} (service : Service σ) (o : Options)
    (filter : Filter) (user : Option String) (events : List (Session.Event σ)) (board : Board)
    (disk : Disk) (target : String × DataFormat) (outbox : List Dispatch) (key : KeyPress)
    (digit : Char)
    (commands : (board.helpMode || board.filterMode || board.editing) = false)
    (code : key.code = .char digit) (low : '1' ≤ digit) (high : digit ≤ '9') :
    let h := (Session.History.start filter o.labels user).run service events
    let c : Console := { session := h.session, board, disk, target, outbox }
    let shown := c.session.formView.choices
    (∀ choice ∈ shown, choice.key = digit →
      let next := c.mapForm (·.set .label choice.label)
      c.route key = (next, true) ∧
      next.session.formView.choices = shown.map (fun other =>
        { other with chosen := other.label = choice.label }) ∧
      (∀ id, next.session.form.validate (some id) ≠ .error .missingLabel) ∧
      ∀ ticket, next.session.beginSubmit.2 = .ok ticket →
        ticket.submission.label = choice.label) ∧
    ((∀ choice ∈ shown, choice.key ≠ digit) →
      let notice := "No label bound to " ++ digit.toString
      c.route key = (c.warn notice, true) ∧
      (c.warn notice).board.notices.head? = some ⟨notice, true⟩) ∧
    shown.map View.Choice.label = o.labels.take 9 ∧
    shown.map View.Choice.key = "123456789".toList.take o.labels.length ∧
    ∀ (s : Session) view, s.view? = some view → view.form = s.formView := by
  intro h c shown
  have labels : c.session.labels = o.labels := Session.History.labels_run service _ events
  have handled : c.route key = (c.chooseLabel digit, true) := by
    rw [c.route_of_commands commands, c.handleKey_digit code low high, isQuit_digit code high]
    rfl
  refine ⟨?beside, ?free, ?_, ?_, fun s view => Session.form_of_view?⟩
  case beside =>
    rintro choice member rfl next
    obtain ⟨index, -, found, -, -⟩ := View.mem_choicesOf_iff.mp member
    have trimmed : Text.Trimmed choice.label := by
      rw [labels] at found
      exact Options.trimmed_of_mem_labels (List.mem_of_getElem? found)
    have carries : next.session.form.Carries choice.label := LabelForm.carries_label trimmed
    refine ⟨by rw [handled, c.chooseLabel_of_choice member], ?_, carries.accepted,
      fun ticket issued => carries.ticket issued⟩
    simp only [eq_comm (b := choice.label)]
    exact View.choicesOf_mark _ _ _
  case free =>
    intro free notice
    exact ⟨by rw [handled, c.chooseLabel_of_free low high free], rfl⟩
  · rw [← labels]
    exact View.choicesOf_labels _ _
  · rw [← labels]
    exact View.choicesOf_keys _ _

/-- A vocabulary with blanks around a label, a gap, and a label that is there twice. -/
def paddedLabels : Options := .ofReading [] { given := [(.labels, " YES ,,NO,YES")] }

def oneItem : Service Unit where
  list _ state := (.ok ⟨[{ id := "a" }], 1⟩, state)
  get id state := (.ok { id }, state)
  submit id _ state := (.ok { id }, state)

theorem third_key_submits_first_label :
    Options.parse [] ["--labels", " YES ,,NO,YES"] = .ok paddedLabels ∧
    let h := (Session.History.start {} paddedLabels.labels none).run oneItem
      [.loadNow {} (), .selectNow "a" ()]
    let c : Console := { session := h.session, target := ("a.csv", .csv) }
    let next := c.mapForm (·.set .label "YES")
    (c.board.helpMode || c.board.filterMode || c.board.editing) = false ∧
    ('1' ≤ '3' ∧ '3' ≤ '9') ∧ ('1' ≤ '4' ∧ '4' ≤ '9') ∧
    c.route { code := .char '3' } = (next, true) ∧
    next.session.formView.choices =
      [⟨'1', "YES", true⟩, ⟨'2', "NO", false⟩, ⟨'3', "YES", true⟩] ∧
    next.session.beginSubmit.2 = .ok ⟨"a", { label := "YES" }⟩ ∧
    c.route { code := .char '4' } = (c.warn "No label bound to 4", true) := by
  refine ⟨by decide +kernel, ?_⟩
  intro h c next
  have shown : c.session.formView.choices =
      [⟨'1', "YES", false⟩, ⟨'2', "NO", false⟩, ⟨'3', "YES", false⟩] := by decide +kernel
  have third := (digit_submits_label_beside oneItem paddedLabels {} none
    [.loadNow {} (), .selectNow "a" ()] {} {} ("a.csv", .csv) [] { code := .char '3' } '3' rfl rfl
    (by decide) (by decide)).1 ⟨'3', "YES", false⟩ (by rw [shown]; decide) rfl
  have fourth := (digit_submits_label_beside oneItem paddedLabels {} none
    [.loadNow {} (), .selectNow "a" ()] {} {} ("a.csv", .csv) [] { code := .char '4' } '4' rfl rfl
    (by decide) (by decide)).2.1 (by rw [shown]; decide)
  refine ⟨rfl, by decide, by decide, third.1, ?_, by decide +kernel, fourth.1⟩
  rw [third.2.1, shown]
  decide

end Console
end ReviewDesk
