import ReviewDesk.Proofs.CommandLine.Spelling

/-!
A whole command line: what it settles is what it spells, in the same order, as long as every value
fits and nothing but a list of texts is given twice.
-/

namespace ReviewDesk
namespace CommandLine
namespace Reading

variable {r r' next : Reading} {key : Key} {value argument : String} {attached : Option String}
  {given all : List (Key × String)} {arguments rest : List String}

/-- The options that a line settles after those that are settled already. -/
def read (r : Reading) (arguments : List String) : Except Halt (List (Key × String)) := do
  let last ← arguments.foldlM step r
  return (← last.settle).given

/-- Nothing is pending after these options. -/
def after (given : List (Key × String)) : Reading :=
  { given := given }

/-- An option was named, and its value is to come. -/
def awaiting (given : List (Key × String)) (key : Key) : Reading :=
  { given := given, pending := some (key, none) }

/-- The value of the last option is there, but is not settled. -/
def holding (given : List (Key × String)) (key : Key) (value : String) : Reading :=
  { given := given, pending := some (key, some value) }

/-! ### Settling an option -/

theorem record_eq_ok : r.record key value = .ok r' ↔
    Admits r.given key value ∧ r' = { r with given := r.given ++ [(key, value)] } := by
  have fresh : (r.has key = true → key.kind = .texts) ↔
      ∀ earlier ∈ r.given, earlier.1 = key → key.kind = .texts := by
    simp only [has, List.any_eq_true, decide_eq_true_eq, forall_exists_index, and_imp]
  unfold record
  by_cases taken : r.has key = true ∧ key.kind ≠ .texts
  · rw [if_pos taken]
    constructor
    · nofun
    · rintro ⟨admits, -⟩
      exact absurd (fresh.mpr admits.fresh taken.1) taken.2
  rw [if_neg taken]
  have free := fresh.mp fun present => not_not.mp fun other => taken ⟨present, other⟩
  constructor
  · intro recorded
    obtain ⟨_, fits, same⟩ := bind_eq_ok.mp recorded
    exact ⟨⟨fits, free⟩, (Except.ok.inj same).symm⟩
  · rintro ⟨admits, rfl⟩
    exact bind_eq_ok.mpr ⟨(), admits.fits, rfl⟩

theorem record_after_eq_ok : (after given).record key value = .ok r ↔
    Admits given key value ∧ r = after (given ++ [(key, value)]) :=
  record_eq_ok

theorem settle_holding : (holding given key value).settle = (after given).record key value := rfl

theorem unawaited_after : (after given).pending ≠ some (key, none) := by
  intro awaits
  cases awaits

theorem unawaited_holding {other : Key} : (holding given key value).pending ≠ some (other, none) := by
  intro awaits
  cases awaits

theorem settle_after : (after given).settle = .ok (after given) := rfl

section Option

theorem option_flag (kind : key.kind = .flag) :
    r.option key none = r.settle >>= (·.record key "") := by
  simp only [option, kind]

theorem option_refused (kind : key.kind = .flag) :
    r.option key (some value) = .error .tooManyValues := by
  simp only [option, kind]

theorem option_attached (kind : key.kind ≠ .flag) :
    r.option key (some value) = r.settle >>= (·.record key value) := by
  unfold option
  split <;> simp_all

theorem option_apart (kind : key.kind ≠ .flag) :
    r.option key none = r.settle >>= fun next => .ok { next with pending := some (key, none) } := by
  unfold option
  split <;> simp_all
  rfl

end Option

/-- An option goes on from what was settled before it, unless it has a value that it cannot take. -/
theorem option_cases (key : Key) (attached : Option String) :
    (∃ goOn, ∀ r : Reading, r.option key attached = r.settle >>= goOn) ∨
      ∀ r : Reading, r.option key attached = .error .tooManyValues := by
  by_cases kind : key.kind = .flag
  · cases attached with
    | none => exact .inl ⟨_, fun _ => option_flag kind⟩
    | some value => exact .inr fun _ => option_refused kind
  · cases attached with
    | none => exact .inl ⟨_, fun _ => option_apart kind⟩
    | some value => exact .inl ⟨_, fun _ => option_attached kind⟩

theorem settled_of_option (read : r.option key attached = .ok r') :
    ∃ next, r.settle = .ok next ∧
      ∀ other : Reading, other.settle = .ok next → other.option key attached = .ok r' := by
  obtain ⟨goOn, continues⟩ | refused := option_cases key attached
  · obtain ⟨next, settled, went⟩ := bind_eq_ok.mp (continues r ▸ read)
    refine ⟨next, settled, fun other same => ?_⟩
    rw [continues]
    exact bind_eq_ok.mpr ⟨next, same, went⟩
  · rw [refused] at read
    cases read

/-- Unless a value is awaited, a step depends only on what the options before it settle. -/
theorem settled_of_step (going : r.ended = false)
    (unawaited : ∀ key, r.pending ≠ some (key, none)) (unmarked : argument ≠ "--")
    (stepped : r.step argument = .ok r') :
    ∃ next, r.settle = .ok next ∧
      ∀ other : Reading, other.ended = false → other.settle = .ok next →
        other.step argument = .ok r' := by
  have dashed : ¬Plain argument := by
    intro plain
    rw [step_of_plain going plain, Reading.plain] at stepped
    split at stepped
    · exact unawaited _ ‹_›
    · cases stepped
  obtain ⟨key, attached, names⟩ := names_of_step stepped unmarked dashed
  rw [step_of_names going names] at stepped
  obtain ⟨next, settled, alike⟩ := settled_of_option stepped
  refine ⟨next, settled, fun other goes same => ?_⟩
  rw [step_of_names goes names]
  exact alike other same

/-! ### From one argument to the line -/

theorem read_nil : r.read [] = r.settle >>= fun last => .ok last.given := rfl

theorem read_cons : r.read (argument :: rest) = r.step argument >>= fun next => next.read rest := by
  simp only [read, List.foldlM_cons, bind_assoc]

theorem read_nil_ended : { r with ended := true }.read [] = .ok all ↔ r.read [] = .ok all := by
  obtain ⟨given, pending, ended⟩ := r
  rw [read_nil, read_nil, bind_eq_ok, bind_eq_ok]
  -- settling looks at the pending option, and recording at those before it
  match pending with
  | none => simp [settle]
  | some (_, none) => simp [settle]
  | some (_, some _) => simp [settle, record_eq_ok]

/-- Nothing follows the mark. -/
theorem read_mark (going : r.ended = false) :
    r.read ("--" :: rest) = .ok all ↔ rest = [] ∧ r.read [] = .ok all := by
  rw [read_cons, step_mark going]
  cases rest with
  | nil => exact read_nil_ended.trans (and_iff_right rfl).symm
  | cons first more =>
      have refused : ¬({ r with ended := true } : Reading).read (first :: more) = .ok all := nofun
      exact iff_of_false refused fun ⟨empty, _⟩ => List.cons_ne_nil _ _ empty

theorem read_of_plain (plain : Plain argument) :
    (after given).read (argument :: rest) ≠ .ok all := by
  rw [read_cons, step_of_plain rfl plain]
  nofun

theorem read_record : ((after given).record key value >>= fun next => next.read rest) = .ok all ↔
    Admits given key value ∧ (after (given ++ [(key, value)])).read rest = .ok all := by
  simp only [bind_eq_ok, record_after_eq_ok, and_assoc, exists_and_left, exists_eq_left]

theorem read_flag (named : Names argument key none) (kind : key.kind = .flag) :
    (after given).read (argument :: rest) = .ok all ↔
      Admits given key "" ∧ (after (given ++ [(key, "")])).read rest = .ok all := by
  rw [read_cons, step_of_names rfl named, option_flag kind, settle_after]
  exact read_record

theorem read_attached (named : Names argument key (some value)) (kind : key.kind ≠ .flag) :
    (after given).read (argument :: rest) = .ok all ↔
      Admits given key value ∧ (after (given ++ [(key, value)])).read rest = .ok all := by
  rw [read_cons, step_of_names rfl named, option_attached kind, settle_after]
  exact read_record

/-- It makes no difference that a value is settled by what follows it. -/
theorem read_holding : (holding given key value).read arguments = .ok all ↔
    Admits given key value ∧ (after (given ++ [(key, value)])).read arguments = .ok all := by
  have ends : (holding given key value).read [] = .ok all ↔
      Admits given key value ∧ (after (given ++ [(key, value)])).read [] = .ok all := by
    rw [read_nil, settle_holding, bind_eq_ok]
    simp only [record_after_eq_ok, and_assoc, exists_and_left, exists_eq_left, read_nil,
      settle_after]
    rfl
  obtain _ | ⟨argument, rest⟩ := arguments
  · exact ends
  by_cases marked : argument = "--"
  · rw [marked, read_mark rfl, read_mark rfl, ends, and_left_comm]
  rw [read_cons, read_cons, bind_eq_ok, bind_eq_ok]
  constructor
  · rintro ⟨next, stepped, more⟩
    obtain ⟨_, settled, alike⟩ := settled_of_step rfl (fun _ => unawaited_holding) marked stepped
    obtain ⟨admits, rfl⟩ := record_after_eq_ok.mp settled
    exact ⟨admits, next, alike _ rfl settle_after, more⟩
  · rintro ⟨admits, next, stepped, more⟩
    obtain ⟨_, ⟨⟩, alike⟩ := settled_of_step rfl (fun _ => unawaited_after) marked stepped
    exact ⟨next, alike _ rfl (record_after_eq_ok.mpr ⟨admits, rfl⟩), more⟩

theorem read_awaiting : (awaiting given key).read arguments = .ok all ↔
    ∃ value rest, arguments = value :: rest ∧ Plain value ∧
      (holding given key value).read rest = .ok all := by
  obtain _ | ⟨argument, rest⟩ := arguments
  · exact iff_of_false nofun nofun
  by_cases plain : Plain argument
  · rw [read_cons, step_of_plain rfl plain]
    constructor
    · intro read
      exact ⟨argument, rest, rfl, plain, read⟩
    · rintro ⟨_, _, ⟨⟩, -, read⟩
      exact read
  · refine iff_of_false (fun read => ?_) ?_
    rotate_left
    · rintro ⟨_, _, ⟨⟩, word, -⟩
      exact plain word
    by_cases marked : argument = "--"
    · rw [marked, read_mark rfl] at read
      cases read.2
    · obtain ⟨_, stepped, -⟩ := bind_eq_ok.mp (read_cons ▸ read)
      obtain ⟨_, _, names⟩ := names_of_step stepped marked plain
      rw [step_of_names rfl names] at stepped
      obtain ⟨_, ⟨⟩, -⟩ := settled_of_option stepped

theorem read_apart (named : Names argument key none) (kind : key.kind ≠ .flag) :
    (after given).read (argument :: rest) = .ok all ↔
      ∃ value more, rest = value :: more ∧ Plain value ∧
        Admits given key value ∧ (after (given ++ [(key, value)])).read more = .ok all := by
  have named : (after given).read (argument :: rest) = (awaiting given key).read rest := by
    rw [read_cons, step_of_names rfl named, option_apart kind, settle_after]
    rfl
  simp only [named, read_awaiting, read_holding]

/-! ### The line -/

theorem read_of_spelled {more : List (Key × String)} (spelled : Spelled arguments more)
    (fine : WellGiven (given ++ more)) : (after given).read arguments = .ok (given ++ more) := by
  induction spelled generalizing given with
  | done => rw [List.append_nil]; rfl
  | ended => rw [read_mark rfl, List.append_nil]; exact ⟨rfl, rfl⟩
  | flag named kind _ ih =>
      rw [List.append_cons] at fine ⊢
      exact (read_flag named kind).mpr ⟨(wellGiven_concat_iff.mp fine.of_append).2, ih fine⟩
  | attached named kind _ ih =>
      rw [List.append_cons] at fine ⊢
      exact (read_attached named kind).mpr ⟨(wellGiven_concat_iff.mp fine.of_append).2, ih fine⟩
  | apart named kind plain _ ih =>
      rw [List.append_cons] at fine ⊢
      exact (read_apart named kind).mpr
        ⟨_, _, rfl, plain, (wellGiven_concat_iff.mp fine.of_append).2, ih fine⟩

theorem spelled_of_read (fine : WellGiven given) (read : (after given).read arguments = .ok all) :
    ∃ more, all = given ++ more ∧ Spelled arguments more ∧ WellGiven all := by
  -- on the length, since an option whose value stands apart takes two arguments
  induction size : arguments.length using Nat.strong_induction_on
    generalizing arguments given with
  | _ size ih =>
  subst size
  obtain _ | ⟨argument, rest⟩ := arguments
  · cases read
    exact ⟨[], (List.append_nil _).symm, .done, fine⟩
  by_cases marked : argument = "--"
  · subst marked
    obtain ⟨rfl, settled⟩ := (read_mark rfl).mp read
    cases settled
    exact ⟨[], (List.append_nil _).symm, .ended, fine⟩
  by_cases plain : Plain argument
  · exact absurd read (read_of_plain plain)
  obtain ⟨_, stepped, -⟩ := bind_eq_ok.mp (read_cons ▸ read)
  obtain ⟨key, attached, named⟩ := names_of_step stepped marked plain
  by_cases kind : key.kind = .flag
  · cases attached with
    | none =>
        obtain ⟨admits, tail⟩ := (read_flag named kind).mp read
        obtain ⟨more, rfl, spelled, whole⟩ :=
          ih rest.length (Nat.lt_succ_self _) (wellGiven_concat_iff.mpr ⟨fine, admits⟩) tail rfl
        exact ⟨_, (List.append_cons ..).symm, .flag named kind spelled, whole⟩
    | some value =>
        rw [step_of_names rfl named, option_refused kind] at stepped
        cases stepped
  · cases attached with
    | none =>
        obtain ⟨value, rest, rfl, word, admits, tail⟩ := (read_apart named kind).mp read
        obtain ⟨more, rfl, spelled, whole⟩ :=
          ih rest.length (Nat.lt_succ_of_lt (Nat.lt_succ_self _))
            (wellGiven_concat_iff.mpr ⟨fine, admits⟩) tail rfl
        exact ⟨_, (List.append_cons ..).symm, .apart named kind word spelled, whole⟩
    | some value =>
        obtain ⟨admits, tail⟩ := (read_attached named kind).mp read
        obtain ⟨more, rfl, spelled, whole⟩ :=
          ih rest.length (Nat.lt_succ_self _) (wellGiven_concat_iff.mpr ⟨fine, admits⟩) tail rfl
        exact ⟨_, (List.append_cons ..).symm, .attached named kind spelled, whole⟩

/-- A line settles just the options that it spells. -/
theorem read_eq_ok_iff :
    read {} arguments = .ok given ↔ Spelled arguments given ∧ WellGiven given := by
  constructor
  · intro read
    obtain ⟨_, rfl, spelled, fine⟩ := spelled_of_read WellGiven.nil read
    exact ⟨spelled, fine⟩
  · rintro ⟨spelled, fine⟩
    exact read_of_spelled spelled fine

/-! ### What an option needs is not looked for while the line is read -/

section Missing

/-- A result that is not a complaint about an option that is missing. -/
def Unmissed {α : Type} (x : Except Halt α) : Prop :=
  x ≠ .error .missingRequired

variable {α β : Type}

theorem Unmissed.bind {x : Except Halt α} {f : α → Except Halt β} (first : Unmissed x)
    (rest : ∀ a, Unmissed (f a)) : Unmissed (x >>= f) := by
  intro missing
  obtain failed | ⟨a, -, failed⟩ := bind_eq_error.mp missing
  · exact first failed
  · exact rest a failed

theorem unmissed_error {halt : Halt} (other : halt ≠ .missingRequired) :
    Unmissed (.error halt : Except Halt α) :=
  fun failed => other (Except.error.inj failed)

theorem unmissed_check {kind : ValueKind} : Unmissed (kind.check value) := by
  unfold ValueKind.check
  split
  · split <;> nofun
  · split <;> nofun
  · split <;> nofun
  · nofun

theorem unmissed_record : Unmissed (r.record key value) := by
  unfold record
  split
  · nofun
  · exact unmissed_check.bind fun _ => nofun

theorem unmissed_settle : Unmissed r.settle := by
  unfold settle
  split
  · nofun
  · nofun
  · exact unmissed_record

theorem unmissed_option : Unmissed (r.option key attached) := by
  unfold option
  split
  · nofun
  · exact unmissed_settle.bind fun _ => unmissed_record
  · exact unmissed_settle.bind fun _ => unmissed_record
  · exact unmissed_settle.bind fun _ => nofun

theorem unmissed_halt {wanted : Halt} (other : wanted ≠ .missingRequired) :
    Unmissed (r.halt wanted attached) := by
  cases attached with
  | some _ => nofun
  | none =>
      rw [halt_none]
      exact unmissed_settle.bind fun _ => unmissed_error other

theorem unmissed_long {cs : List Char} : Unmissed (r.long cs) := by
  simp only [long]
  split
  · exact unmissed_halt (by decide)
  split
  · exact unmissed_halt (by decide)
  split
  · exact unmissed_option
  · exact unmissed_error (by decide)

theorem unmissed_short {cs : List Char} : Unmissed (r.short cs) := by
  unfold short
  split
  · exact unmissed_option
  · exact unmissed_option
  · exact unmissed_option
  · exact unmissed_halt (by decide)
  · exact unmissed_halt (by decide)
  · exact unmissed_error (by decide)

theorem unmissed_plain : Unmissed (r.plain argument) := by
  unfold Reading.plain
  split <;> nofun

theorem unmissed_step : Unmissed (r.step argument) := by
  unfold step
  split
  · nofun
  split
  · nofun
  · exact unmissed_long
  · exact unmissed_plain
  · exact unmissed_short
  · exact unmissed_plain

theorem unmissed_read : Unmissed (r.read arguments) := by
  induction arguments generalizing r with
  | nil => exact unmissed_settle.bind fun _ => nofun
  | cons argument rest ih =>
      rw [read_cons]
      exact unmissed_step.bind fun _ => ih

end Missing

end Reading
end CommandLine
end ReviewDesk
