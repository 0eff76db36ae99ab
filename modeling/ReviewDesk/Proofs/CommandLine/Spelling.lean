import ReviewDesk.CommandLine.Reader
import ReviewDesk.Proofs.Except
import Mathlib.Data.List.TakeWhile

/-!
How a command line spells options, and that the reader takes in just what is spelled: an option
stands with its value apart from it, or attached to it, and the reader settles them in their order.
-/

namespace ReviewDesk
namespace CommandLine

/-- An argument that names an option, with the value that is attached to the name, if any. -/
inductive Names : String → Key → Option String → Prop where
  | long (key : Key) : Names ("--" ++ key.long) key none
  | longValue (key : Key) (value : String) :
      Names ("--" ++ key.long ++ "=" ++ value) key (some value)
  | short : Names "-o" .output none
  | shortEquals (value : String) : Names ("-o=" ++ value) .output (some value)
  | shortValue {first : Char} (rest : List Char) (other : first ≠ '=') :
      Names ("-o" ++ String.ofList (first :: rest)) .output (some (String.ofList (first :: rest)))

/-- An argument that is the value of the option before it. -/
def Plain (argument : String) : Prop :=
  argument = "-" ∨ argument.toList.head? ≠ some '-'

/-- The options that a line spells, in their order. -/
inductive Spelled : List String → List (Key × String) → Prop where
  | done : Spelled [] []
  | ended : Spelled ["--"] []
  | flag {argument : String} {key : Key} {arguments : List String} {given : List (Key × String)}
      (named : Names argument key none) (kind : key.kind = .flag)
      (rest : Spelled arguments given) :
      Spelled (argument :: arguments) ((key, "") :: given)
  | attached {argument : String} {key : Key} {value : String} {arguments : List String}
      {given : List (Key × String)} (named : Names argument key (some value))
      (kind : key.kind ≠ .flag) (rest : Spelled arguments given) :
      Spelled (argument :: arguments) ((key, value) :: given)
  | apart {argument : String} {key : Key} {value : String} {arguments : List String}
      {given : List (Key × String)} (named : Names argument key none) (kind : key.kind ≠ .flag)
      (plain : Plain value) (rest : Spelled arguments given) :
      Spelled (argument :: value :: arguments) ((key, value) :: given)

/-- An option that may follow the ones before it. -/
structure Admits (given : List (Key × String)) (key : Key) (value : String) : Prop where
  fits : key.kind.check value = .ok ()
  fresh : ∀ earlier ∈ given, earlier.1 = key → key.kind = .texts

/-- Every value fits its option, and only a list of texts is given twice. -/
structure WellGiven (given : List (Key × String)) : Prop where
  fits : ∀ one ∈ given, one.1.kind.check one.2 = .ok ()
  once : given.Pairwise fun earlier later => earlier.1 = later.1 → later.1.kind = .texts

theorem WellGiven.nil : WellGiven [] :=
  ⟨nofun, .nil⟩

theorem wellGiven_concat_iff {given : List (Key × String)} {key : Key} {value : String} :
    WellGiven (given ++ [(key, value)]) ↔ WellGiven given ∧ Admits given key value := by
  constructor
  · rintro ⟨fits, once⟩
    obtain ⟨once, -, fresh⟩ := List.pairwise_append.mp once
    obtain ⟨fits, last⟩ := List.forall_mem_append.mp fits
    exact ⟨⟨fits, once⟩, last _ List.mem_cons_self, fun one inside =>
      fresh one inside _ List.mem_cons_self⟩
  · rintro ⟨⟨fits, once⟩, last, fresh⟩
    refine ⟨List.forall_mem_append.mpr ⟨fits, List.forall_mem_singleton.mpr last⟩,
      List.pairwise_append.mpr ⟨once, List.pairwise_singleton _ _, ?_⟩⟩
    rintro one inside _ (_ | ⟨_, ⟨⟩⟩)
    exact fresh one inside

theorem WellGiven.of_append {given more : List (Key × String)} (all : WellGiven (given ++ more)) :
    WellGiven given :=
  ⟨(List.forall_mem_append.mp all.fits).1, (List.pairwise_append.mp all.once).1⟩

namespace Key

variable {key : Key} {name : String}

theorem equals_notMem_long (key : Key) : '=' ∉ key.long.toList := by
  cases key <;> decide

theorem long_ne_help (key : Key) : key.long ≠ "help" := by
  cases key <;> decide

theorem long_ne_version (key : Key) : key.long ≠ "version" := by
  cases key <;> decide

theorem long_ne_empty (key : Key) : key.long ≠ "" := by
  cases key <;> decide

theorem ofLong?_long (key : Key) : ofLong? key.long = some key := by
  cases key <;> decide

theorem long_of_ofLong? (known : ofLong? name = some key) : key.long = name :=
  of_decide_eq_true (@List.find?_some _ (fun key : Key => decide (key.long = name)) _ _ known)

end Key

namespace Reading

variable {r r' : Reading} {key : Key} {value argument : String} {attached : Option String}

/-! ### A single argument -/

/-- What `long` does with a name and the value that is attached to it. -/
def named (r : Reading) (name : String) (attached : Option String) : Except Halt Reading :=
  if name = "help" then r.halt .help attached
  else if name = "version" then r.halt .version attached
  else
    match Key.ofLong? name with
    | some key => r.option key attached
    | none => .error .unknownArgument

theorem long_of_notMem {name : List Char} (bare : '=' ∉ name) :
    r.long name = r.named (String.ofList name) none := by
  have whole : name.takeWhile (· ≠ '=') = name := by
    refine List.takeWhile_eq_self_iff.mpr fun c inside => ?_
    exact decide_eq_true fun same => bare (same ▸ inside)
  have absent : name.contains '=' = false := by simpa using bare
  rw [long, whole, absent]
  rfl

theorem long_of_equals {name rest : List Char} (bare : '=' ∉ name) :
    r.long (name ++ '=' :: rest) = r.named (String.ofList name) (some (String.ofList rest)) := by
  have before : ∀ c ∈ name, decide (c ≠ '=') = true := fun c inside =>
    decide_eq_true fun same => bare (same ▸ inside)
  have present : (name ++ '=' :: rest).contains '=' = true := by simp
  rw [long, List.takeWhile_append_of_pos before, List.dropWhile_append_of_pos before, present]
  simp only [List.takeWhile_cons, List.dropWhile_cons, ne_eq, not_true_eq_false, decide_false,
    Bool.false_eq_true, if_false, if_true, List.append_nil, List.drop_one, List.tail_cons]
  rfl

theorem named_long : r.named key.long attached = r.option key attached := by
  rw [named, if_neg key.long_ne_help, if_neg key.long_ne_version, Key.ofLong?_long]

theorem halt_none {wanted : Halt} :
    r.halt wanted none = r.settle >>= fun _ => .error wanted := by
  rw [halt]
  cases r.settle <;> rfl

theorem halt_ne_ok {wanted : Halt} : r.halt wanted attached ≠ .ok r' := by
  cases attached with
  | some value => nofun
  | none =>
      intro halted
      obtain ⟨_, -, wrong⟩ := bind_eq_ok.mp (halt_none ▸ halted)
      cases wrong

theorem named_eq_ok {name : String} (read : r.named name attached = .ok r') :
    ∃ key : Key, key.long = name := by
  unfold named at read
  split at read
  · exact absurd read halt_ne_ok
  split at read
  · exact absurd read halt_ne_ok
  split at read
  · rename_i key known
    exact ⟨key, Key.long_of_ofLong? known⟩
  · cases read

theorem step_mark (going : r.ended = false) : r.step "--" = .ok { r with ended := true } := by
  simp [step, going]

theorem step_of_plain (going : r.ended = false) (plain : Plain argument) :
    r.step argument = r.plain argument := by
  obtain rfl | other := plain
  · simp [step, going]
  · rw [step, going, if_neg Bool.false_ne_true]
    split
    all_goals first | rfl | (rename_i same; simp [same] at other)

theorem step_of_long {name : String} (going : r.ended = false) (nonempty : name ≠ "") :
    r.step ("--" ++ name) = r.long name.toList := by
  have dashes : ("--" ++ name).toList = '-' :: '-' :: name.toList := by simp
  have letters : name.toList ≠ [] := by simpa using nonempty
  obtain ⟨first, rest, chars⟩ := List.exists_cons_of_ne_nil letters
  rw [step, going, if_neg Bool.false_ne_true, dashes, chars]
  rfl

theorem step_of_short {first : Char} {rest : List Char} (going : r.ended = false)
    (single : first ≠ '-') :
    r.step ("-" ++ String.ofList (first :: rest)) = r.short (first :: rest) := by
  have dash : ("-" ++ String.ofList (first :: rest)).toList = '-' :: first :: rest := by simp
  rw [step, going, if_neg Bool.false_ne_true, dash]
  split
  all_goals simp_all

theorem step_of_names (going : r.ended = false) (names : Names argument key attached) :
    r.step argument = r.option key attached := by
  cases names with
  | long =>
      rw [step_of_long going key.long_ne_empty, long_of_notMem key.equals_notMem_long,
        String.ofList_toList, named_long]
  | longValue _ value =>
      have whole : "--" ++ key.long ++ "=" ++ value = "--" ++ (key.long ++ "=" ++ value) := by
        simp only [String.append_assoc]
      have nonempty : key.long ++ "=" ++ value ≠ "" := by simp
      have chars : (key.long ++ "=" ++ value).toList = key.long.toList ++ '=' :: value.toList := by
        simp
      rw [whole, step_of_long going nonempty, chars, long_of_equals key.equals_notMem_long,
        String.ofList_toList, String.ofList_toList, named_long]
  | short => simp [step, going, short]
  | shortEquals value => simp [step, going, short]
  | shortValue rest other => simp [step, going, short, other]

theorem names_of_long {cs : List Char} (read : r.long cs = .ok r') :
    ∃ key attached, Names ("--" ++ String.ofList cs) key attached := by
  by_cases valued : '=' ∈ cs
  · obtain ⟨name, rest, rfl, bare⟩ := List.eq_append_cons_of_mem valued
    rw [long_of_equals bare] at read
    obtain ⟨key, same⟩ := named_eq_ok read
    refine ⟨key, some (String.ofList rest), ?_⟩
    have whole : "--" ++ String.ofList (name ++ '=' :: rest) =
        "--" ++ key.long ++ "=" ++ String.ofList rest := by
      rw [same, ← String.toList_inj]
      simp
    exact whole ▸ .longValue key _
  · rw [long_of_notMem valued] at read
    obtain ⟨key, same⟩ := named_eq_ok read
    exact ⟨key, none, same ▸ .long key⟩

theorem names_of_short {cs : List Char} (read : r.short cs = .ok r') :
    ∃ key attached, Names ("-" ++ String.ofList cs) key attached := by
  unfold short at read
  split at read
  · exact ⟨_, _, .short⟩
  · rename_i rest
    refine ⟨.output, some (String.ofList rest), ?_⟩
    have whole : "-" ++ String.ofList ('o' :: '=' :: rest) = "-o=" ++ String.ofList rest := by
      rw [← String.toList_inj]
      simp
    exact whole ▸ .shortEquals _
  · rename_i rest bare valued
    obtain _ | ⟨first, rest⟩ := rest
    · exact absurd rfl bare
    refine ⟨.output, some (String.ofList (first :: rest)), ?_⟩
    have whole : "-" ++ String.ofList ('o' :: first :: rest) =
        "-o" ++ String.ofList (first :: rest) := by
      rw [← String.toList_inj]
      simp
    exact whole ▸ .shortValue rest fun same => valued rest (same ▸ rfl)
  · exact absurd read halt_ne_ok
  · exact absurd read halt_ne_ok
  · cases read

/-- What is neither the mark nor a value has to name an option. -/
theorem names_of_step (read : r.step argument = .ok r') (unmarked : argument ≠ "--")
    (dashed : ¬Plain argument) : ∃ key attached, Names argument key attached := by
  obtain ⟨alone, first⟩ := not_or.mp dashed
  obtain ⟨cs, chars⟩ := List.head?_eq_some_iff.mp (not_not.mp first)
  have going : r.ended = false := by
    by_contra ended
    rw [step, if_pos (Bool.of_not_eq_false ended)] at read
    cases read
  obtain _ | ⟨second, cs⟩ := cs
  · exact absurd (String.toList_inj.mp chars) alone
  by_cases double : second = '-'
  · subst double
    obtain rfl : argument = "--" ++ String.ofList cs := by
      rw [← String.toList_inj, chars]
      simp
    have nonempty : String.ofList cs ≠ "" := fun none => unmarked (by rw [none]; rfl)
    rw [step_of_long going nonempty, String.toList_ofList] at read
    exact names_of_long read
  · obtain rfl : argument = "-" ++ String.ofList (second :: cs) := by
      rw [← String.toList_inj, chars]
      simp
    rw [step_of_short going double] at read
    exact names_of_short read

end Reading
end CommandLine
end ReviewDesk
