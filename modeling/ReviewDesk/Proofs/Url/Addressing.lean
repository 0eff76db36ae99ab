import ReviewDesk.Proofs.Url.Percent
import ReviewDesk.Url.Endpoint

/-!
The address of an item or a document is that of its collection with one more segment, which decodes
to the id. That holds of every id but a few: dots are no segments, and tabs and line ends are
dropped from one. What is asked for by such an id is another document, or the collection as a whole.
-/

namespace ReviewDesk
namespace Url

theorem segmentSet_percent (scheme : String) : segmentSet scheme '%' = true := by
  rw [segmentSet]
  split <;> decide

theorem segmentSet_dot (scheme : String) : segmentSet scheme '.' = false := by
  rw [segmentSet]
  split <;> decide

/-- A segment that is added to a path as it stands. -/
structure Word (w : String) : Prop where
  some : w ≠ ""
  kept : keep w.toList = w.toList
  plain : ∀ scheme, encode (segmentSet scheme) w.toList = w.toList
  dot : isSingleDot w.toList = false
  dots : isDoubleDot w.toList = false
  drive : isDrive (w.toList.take 2) = false
  slash : '/' ∉ w.toList

/-- The segments of collections, and the one for labels. -/
def words : List String := ["review", "image-queries", "alert-rules", "config", "streams", "label"]

theorem word_of_mem {w : String} (member : w ∈ words) : Word w := by
  obtain ⟨some_, kept, special, other, dot, dots, drive, slash⟩ : w ≠ "" ∧
      keep w.toList = w.toList ∧ encode .specialSegment w.toList = w.toList ∧
      encode .segment w.toList = w.toList ∧ isSingleDot w.toList = false ∧
      isDoubleDot w.toList = false ∧ isDrive (w.toList.take 2) = false ∧ '/' ∉ w.toList := by
    revert w
    decide
  refine ⟨some_, kept, ?_, dot, dots, drive, slash⟩
  intro scheme
  rw [segmentSet]
  split
  · exact special
  · exact other

/-- A path to which segments are added without a change to what is there: it ends in a word, and
begins with a segment that its scheme keeps. -/
structure Open (scheme : String) (path : List String) (w : String) : Prop where
  word : Word w
  last : ∃ front, path = front ++ [w]
  first : scheme = "file" → path.head? ≠ some ""

theorem dropEmptyFront_of_head {path : List String} (head : path.head? ≠ some "") :
    dropEmptyFront path = path := by
  rw [dropEmptyFront]
  intro b rest same
  rw [same] at head
  exact head rfl

theorem settle_of_head {scheme : String} {path : List String}
    (first : scheme = "file" → path.head? ≠ some "") : settle scheme path = path := by
  rw [settle]
  split
  · rename_i file
    exact dropEmptyFront_of_head (first file)
  · rfl

theorem dropEmptyFront_concat (front : List String) {w : String} (some_ : w ≠ "") :
    ∃ rest, dropEmptyFront (front ++ [w]) = rest ++ [w] ∧ (rest ++ [w]).head? ≠ some "" := by
  induction front with
  | nil =>
      have head : [w].head? ≠ some "" := by simpa using some_
      exact ⟨[], dropEmptyFront_of_head head, head⟩
  | cons a front ih =>
      by_cases empty : a = ""
      · obtain ⟨rest, dropped, head⟩ := ih
        refine ⟨rest, ?_, head⟩
        rw [← dropped, empty]
        cases front with
        | nil => simp only [List.nil_append, List.cons_append, dropEmptyFront]
        | cons b front => simp only [List.cons_append, dropEmptyFront]
      · have head : (a :: front ++ [w]).head? ≠ some "" := by simpa using empty
        exact ⟨a :: front, dropEmptyFront_of_head head, head⟩

theorem open_settle (scheme : String) (path : List String) {w : String} (word : Word w) :
    Open scheme (settle scheme (path ++ [w])) w := by
  rw [settle]
  split
  · obtain ⟨rest, dropped, head⟩ := dropEmptyFront_concat path word.some
    rw [dropped]
    exact ⟨word, ⟨rest, rfl⟩, fun _ => head⟩
  · rename_i other
    exact ⟨word, ⟨path, rfl⟩, fun file => (other file).elim⟩

theorem pushSegment_word (scheme : String) (path : List String) {w : String} (word : Word w) :
    pushSegment scheme (segmentSet scheme) path w.toList true = path ++ [w] := by
  have keptHead : localHead (segmentSet scheme) w.toList = [w] := by
    simp [localHead, word.kept, word.plain, word.drive]
  have dot : ¬isSingleDot w.toList = true := by simp [word.dot]
  have dots : ¬isDoubleDot w.toList = true := by simp [word.dots]
  rw [pushSegment, word.kept, word.plain, if_neg dots, if_neg dot, keptHead, String.ofList_toList]
  split
  · rename_i start
    rw [List.isEmpty_iff.mp start.2]
    rfl
  · rfl

theorem appendSegment_word (scheme : String) (path : List String) {w : String} (word : Word w) :
    appendSegment scheme path w =
      settle scheme ((if path = [""] then [] else path) ++ [w]) := by
  have other : ¬(w = "." ∨ w = "..") := by
    rintro (rfl | rfl)
    · exact absurd word.dot (by decide)
    · exact absurd word.dots (by decide)
  rw [appendSegment, if_neg other]
  dsimp only
  rw [pushSegment_word scheme _ word]

theorem open_foldl (scheme : String) (path front : List String) {w : String} (word : Word w) :
    Open scheme ((front ++ [w]).foldl (appendSegment scheme) path) w := by
  rw [List.foldl_append, List.foldl_cons, List.foldl_nil, appendSegment_word scheme _ word]
  exact open_settle scheme _ word

/-- Where an id leads from a path: nowhere, to an empty segment, up, or to a segment of its own. -/
def below (set : EncodeSet) (path : List String) (id : String) : List String :=
  if id = "." ∨ id = ".." then path
  else if keep id.toList = ['.'] then path ++ [""]
  else if keep id.toList = ['.', '.'] then path.dropLast ++ [""]
  else path ++ [String.ofList (encode set (keep id.toList))]

theorem below_eq (set : EncodeSet) (path : List String) (id : String) :
    (∃ more, below set path id = path ++ more) ∨ below set path id = path.dropLast ++ [""] := by
  rw [below]
  split
  · exact .inl ⟨[], (List.append_nil path).symm⟩
  · split
    · exact .inl ⟨_, rfl⟩
    · split
      · exact .inr rfl
      · exact .inl ⟨_, rfl⟩

/-- An id that a segment keeps as it is: it is not dots, and nothing in it is dropped. -/
structure Plain (id : String) : Prop where
  dot : id ≠ "."
  dots : id ≠ ".."
  kept : ∀ c ∈ id.toList, isDropped c = false

theorem keep_eq_iff (cs : List Char) : keep cs = cs ↔ ∀ c ∈ cs, isDropped c = false := by
  simp [keep, List.filter_eq_self]

theorem Plain.below_eq {id : String} (plain : Plain id) (set : EncodeSet) (path : List String) :
    below set path id = path ++ [String.ofList (encode set id.toList)] := by
  have whole := (keep_eq_iff id.toList).mpr plain.kept
  have dot : ¬id.toList = ['.'] := fun same => plain.dot (String.toList_inj.mp same)
  have dots : ¬id.toList = ['.', '.'] := fun same => plain.dots (String.toList_inj.mp same)
  rw [below, whole, if_neg (not_or.mpr ⟨plain.dot, plain.dots⟩), if_neg dot, if_neg dots]

/-- Only an id that is kept as it is leads to a segment that decodes to it. -/
theorem plain_of_below {set : EncodeSet} (percent : set '%' = true) {path : List String}
    {id own : String} (some_ : path ≠ []) (added : below set path id = path ++ [own])
    (decoded : decode? own.toList = some id) : Plain id := by
  rw [below] at added
  split at added
  · exact absurd (List.self_eq_append_right.mp added) (List.cons_ne_nil _ _)
  rename_i other
  have kept : keep id.toList = id.toList := by
    -- an empty segment decodes to the empty id, of which nothing is dropped
    split at added
    · rename_i dot
      obtain rfl := List.singleton_inj.mp (List.append_cancel_left added)
      have nothing := decode?_encode percent []
      rw [show encode set [] = "".toList from rfl, decoded] at nothing
      obtain rfl := Option.some.inj nothing
      simp [keep] at dot
    -- going up makes the path no longer
    split at added
    · have length := congrArg List.length added
      have positive := List.length_pos_iff.mpr some_
      simp only [List.length_append, List.length_dropLast, List.length_singleton] at length
      omega
    · obtain rfl := List.singleton_inj.mp (List.append_cancel_left added)
      rw [String.toList_ofList, decode?_encode percent] at decoded
      exact String.ofList_injective (by rw [Option.some.inj decoded, String.ofList_toList])
  exact ⟨fun dot => other (.inl dot), fun dots => other (.inr dots), (keep_eq_iff _).mp kept⟩

namespace Open

variable {scheme : String} {path : List String} {w : String}

theorem ne_nil (base : Open scheme path w) : path ≠ [] := by
  obtain ⟨front, rfl⟩ := base.last
  exact List.concat_ne_nil _ _

theorem ne_empty (base : Open scheme path w) : path ≠ [""] := by
  obtain ⟨front, rfl⟩ := base.last
  intro lone
  have last := congrArg List.getLast? lone
  rw [List.getLast?_concat] at last
  exact base.word.some (Option.some.inj last)

theorem parent_eq (base : Open scheme path w) : parent path = path.dropLast := by
  obtain ⟨front, rfl⟩ := base.last
  simp [parent, beginsWithDrive, base.word.drive]

theorem settle_append (base : Open scheme path w) (more : List String) :
    settle scheme (path ++ more) = path ++ more := by
  apply settle_of_head
  intro file
  have head := base.first file
  obtain ⟨a, rest, rfl⟩ := List.exists_cons_of_ne_nil base.ne_nil
  exact head

theorem settle_up (base : Open scheme path w) :
    settle scheme (path.dropLast ++ [""]) = path.dropLast ++ [""] := by
  obtain ⟨front, rfl⟩ := base.last
  rw [List.dropLast_concat]
  cases front with
  | nil => simp [settle, dropEmptyFront]
  | cons a front => exact settle_of_head base.first

theorem appendSegment_eq (base : Open scheme path w) (id : String) :
    appendSegment scheme path id = below (segmentSet scheme) path id := by
  have start : ¬(scheme = "file" ∧ path.isEmpty = true) :=
    fun both => base.ne_nil (List.isEmpty_iff.mp both.2)
  rw [appendSegment, below]
  by_cases skipped : id = "." ∨ id = ".."
  · rw [if_pos skipped, if_pos skipped]
  rw [if_neg skipped, if_neg skipped]
  simp only [base.ne_empty, if_false, pushSegment, start]
  simp only [isDoubleDot_encode (segmentSet_percent scheme) (segmentSet_dot scheme),
    isSingleDot_encode (segmentSet_percent scheme) (segmentSet_dot scheme), base.parent_eq]
  by_cases dot : keep id.toList = ['.']
  · simp [dot, base.settle_append]
  by_cases dots : keep id.toList = ['.', '.']
  · simp [dots, base.settle_up]
  · simp [dot, dots, base.settle_append]

theorem appendSegment_below (base : Open scheme path w) (id : String) {v : String} (word : Word v) :
    let own := below (segmentSet scheme) path id
    appendSegment scheme own v = (if own = [""] then [] else own) ++ [v] := by
  intro own
  rw [appendSegment_word scheme own word]
  by_cases lone : own = [""]
  · rw [if_pos lone]
    exact settle_of_head fun _ => by simpa using word.some
  · rw [if_neg lone]
    rcases below_eq (segmentSet scheme) path id with ⟨more, added⟩ | up
    · rw [show own = path ++ more from added, List.append_assoc]
      exact base.settle_append _
    · rw [show own = path.dropLast ++ [""] from up] at lone ⊢
      apply settle_of_head
      intro file
      obtain ⟨front, rfl⟩ := base.last
      rw [List.dropLast_concat] at lone ⊢
      cases front with
      | nil => exact (lone rfl).elim
      | cons a front => exact base.first file

/-- An id that is kept as it is leads to one segment more, and what is below the id comes after. -/
theorem reach_of_plain (base : Open scheme path w) {id : String} (plain : Plain id)
    {after : List String} (short : after = [] ∨ after = ["label"]) :
    (id :: after).foldl (appendSegment scheme) path =
      path ++ String.ofList (encode (segmentSet scheme) id.toList) :: after := by
  rw [List.foldl_cons, base.appendSegment_eq]
  rcases short with rfl | rfl
  · exact plain.below_eq _ _
  · have longer (own : String) : path ++ [own] ≠ [""] := by
      intro lone
      have front := congrArg List.dropLast lone
      rw [List.dropLast_concat] at front
      exact base.ne_nil front
    rw [List.foldl_cons, List.foldl_nil, base.appendSegment_below id (word_of_mem (by decide)),
      plain.below_eq, if_neg (longer _), List.append_assoc, List.singleton_append]

theorem plain_of_reach (base : Open scheme path w) {id own : String} {after : List String}
    (short : after = [] ∨ after = ["label"])
    (added : (id :: after).foldl (appendSegment scheme) path = path ++ own :: after)
    (decoded : decode? own.toList = some id) : Plain id := by
  rw [List.foldl_cons, base.appendSegment_eq] at added
  apply plain_of_below (segmentSet_percent scheme) base.ne_nil _ decoded
  rcases short with rfl | rfl
  · exact added
  · rw [List.foldl_cons, List.foldl_nil, base.appendSegment_below id (word_of_mem (by decide)),
      List.append_cons path own, List.append_cancel_right_eq] at added
    split at added
    · exact absurd added.symm (List.concat_ne_nil _ _)
    · exact added

end Open

theorem segmentsText_append (front back : List String) :
    segmentsText (front ++ back) = segmentsText front ++ segmentsText back := by
  rw [segmentsText, List.map_append, String.join_append]
  rfl

theorem segmentsText_cons (w : String) (rest : List String) :
    segmentsText (w :: rest) = "/" ++ w ++ segmentsText rest := by
  rw [segmentsText, List.map_cons, String.join_cons, segmentsText]

theorem segmentsText_singleton (w : String) : segmentsText [w] = "/" ++ w := by
  rw [segmentsText_cons, segmentsText, List.map_nil, String.join_nil, String.append_empty]

theorem segmentsText_eq_nil {path : List String} (none : segmentsText path = "") : path = [] := by
  cases path with
  | nil => rfl
  | cons w rest =>
      rw [segmentsText_cons] at none
      have slash := congrArg String.toList none
      simp at slash

theorem takeWhile_slash {cs : List Char} (plain : '/' ∉ cs) (rest : List Char) :
    (cs ++ '/' :: rest).takeWhile (· ≠ '/') = cs := by
  rw [List.takeWhile_append_of_pos]
  · simp
  · intro c member
    exact decide_eq_true (ne_of_mem_of_not_mem member plain)

/-- The last segment can be read off a text, whatever comes before it. -/
theorem eq_of_segmentsText_concat {a b : List String} {v w : String} (plainLeft : '/' ∉ v.toList)
    (plainRight : '/' ∉ w.toList) (same : segmentsText (a ++ [v]) = segmentsText (b ++ [w])) :
    v = w := by
  -- read from its end, a text gives the last segment up to the first slash
  have backwards (front : List String) (last : String) :
      (segmentsText (front ++ [last])).toList.reverse =
        last.toList.reverse ++ '/' :: (segmentsText front).toList.reverse := by
    rw [segmentsText_append, segmentsText_singleton, String.toList_append, String.toList_append,
      List.reverse_append, List.reverse_append, List.append_assoc]
    rfl
  have ends := congrArg (fun text => text.toList.reverse.takeWhile (· ≠ '/')) same
  rw [backwards, backwards, takeWhile_slash (by simpa using plainLeft),
    takeWhile_slash (by simpa using plainRight)] at ends
  exact String.toList_inj.mp (List.reverse_inj.mp ends)

namespace Open

variable {scheme : String} {path : List String} {w : String}

/-- Only dots lead to the text of the path itself. -/
theorem text_eq_iff (base : Open scheme path w) (id : String) :
    segmentsText (appendSegment scheme path id) = segmentsText path ↔ id = "." ∨ id = ".." := by
  have longer (own : String) : segmentsText (path ++ [own]) ≠ segmentsText path := by
    rw [segmentsText_append]
    intro same
    have nothing := (String.append_right_inj _).mp (same.trans String.append_empty.symm)
    exact List.cons_ne_nil _ _ (segmentsText_eq_nil nothing)
  constructor
  · intro same
    rw [base.appendSegment_eq, below] at same
    split at same
    · rename_i dots
      exact dots
    split at same
    · exact (longer _ same).elim
    split at same
    · obtain ⟨front, rfl⟩ := base.last
      rw [List.dropLast_concat] at same
      exact (base.word.some (eq_of_segmentsText_concat (by decide) base.word.slash same).symm).elim
    · exact (longer _ same).elim
  · intro dots
    rw [appendSegment, if_pos dots]

/-- Below an id there is another address than that of the path, if it does not end in the same
word. -/
theorem text_below_ne (base : Open scheme path w) (id : String) {v : String} (word : Word v)
    (other : v ≠ w) :
    segmentsText (appendSegment scheme (appendSegment scheme path id) v) ≠ segmentsText path := by
  intro same
  rw [base.appendSegment_eq, base.appendSegment_below id word] at same
  obtain ⟨front, rfl⟩ := base.last
  exact other (eq_of_segmentsText_concat word.slash base.word.slash same)

end Open

theorem rooted_of_parseBase {text : String} {base : Url} (accepted : parseBase text = .ok base) :
    ∃ guarded path, base.path = .rooted guarded path := by
  rw [parseBase] at accepted
  split at accepted
  · cases accepted
  · split at accepted
    · rename_i guarded path rooted
      cases accepted
      exact ⟨guarded, path, rooted⟩
    · cases accepted

/-- The path of an address below a base address. -/
def belowBase (base : Url) (path : List String) (segments : List String) : List String :=
  segments.foldl (appendSegment base.scheme) (dropEmptyLast path)

theorem belowBase_append (base : Url) (path collection more : List String) :
    belowBase base path (collection ++ more) =
      more.foldl (appendSegment base.scheme) (belowBase base path collection) := by
  rw [belowBase, List.foldl_append, ← belowBase]

theorem path_endpoint {base : Url} {guarded : Bool} {path : List String}
    (rooted : base.path = .rooted guarded path) (segments : List String) :
    (base.endpoint segments []).path = .rooted guarded (belowBase base path segments) := by
  simp only [endpoint, rooted, Path.extend, belowBase]

/-- Addresses below the same base differ if their paths do. -/
theorem text_endpoint_eq_iff {base : Url} {guarded : Bool} {path : List String}
    (rooted : base.path = .rooted guarded path) (a b : List String) :
    (base.endpoint a []).text = (base.endpoint b []).text ↔
      segmentsText (belowBase base path a) = segmentsText (belowBase base path b) := by
  simp only [text, target, path_endpoint rooted, Path.text]
  cases guarded <;> simp only [Path.guardText, endpoint, extendQuery, List.isEmpty_nil, if_true,
    String.append_left_inj, String.append_right_inj]

end Url
end ReviewDesk
