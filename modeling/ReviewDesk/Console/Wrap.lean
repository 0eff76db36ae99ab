import ReviewDesk.Text.Glyph

/-!
Breaking a line into lines of limited width. A line is broken between words, and a word only when
it is longer than a line by itself. Blanks at a break are dropped; those that begin a line stay
unless they are to be trimmed.
-/

namespace ReviewDesk
namespace Wrap

open Text (Glyph lineColumns fit)

/-- What is read of a line so far. The finished lines are held newest first. -/
structure State where
  finished : List (List Glyph) := []
  /-- The line that is being filled. -/
  line : List Glyph := []
  /-- The blanks between the line and the word. -/
  blanks : List Glyph := []
  word : List Glyph := []
  /-- The last glyph belongs to a word. -/
  inWord : Bool := false

/-- Puts the blanks and the word on the line. -/
def State.flush (st : State) (trim : Bool) : State :=
  { st with
    line := (if st.line.isEmpty && trim then [] else st.line ++ st.blanks) ++ st.word
    blanks := []
    word := [] }

/-- The word, or the blanks before it, would be too long for a line of their own. -/
def State.overflows (st : State) (trim : Bool) (width : Nat) (g : Glyph) : Bool :=
  st.line.isEmpty &&
    if trim then
      width < lineColumns st.word + g.columns || width < lineColumns st.blanks + g.columns
    else width < lineColumns st.word + lineColumns st.blanks + g.columns

/-- There is no room for another glyph after the word. -/
def State.isFull (st : State) (width : Nat) (g : Glyph) : Bool :=
  width ≤ lineColumns st.line ||
    (0 < g.columns &&
      width ≤ lineColumns st.line + lineColumns st.blanks + lineColumns st.word)

/-- Ends the line. The blanks that would have stood on it go with it. -/
def State.endLine (st : State) (width : Nat) : State :=
  { st with
    finished := st.line :: st.finished
    line := []
    blanks := st.blanks.drop (fit (width - lineColumns st.line) st.blanks).length }

def State.push (st : State) (g : Glyph) : State :=
  if g.isBreak then { st with blanks := st.blanks ++ [g], inWord := false }
  else { st with word := st.word ++ [g], inWord := true }

/-- Reads one glyph. One that is wider than a line is left out. -/
def State.read (trim : Bool) (width : Nat) (st : State) (g : Glyph) : State :=
  if width < g.columns then st
  else
    let st := if (st.inWord && g.isBreak) || st.overflows trim width g then st.flush trim else st
    if st.isFull width g then
      let st := st.endLine width
      if g.isBreak && st.blanks.isEmpty then st else st.push g
    else st.push g

/-- The lines, first one first. There is always one. Blanks that are left alone make a line even
when they are trimmed. -/
def State.finish (st : State) (trim : Bool) : List (List Glyph) :=
  let finished :=
    if trim && st.line.isEmpty && st.word.isEmpty && !st.blanks.isEmpty then [] :: st.finished
    else st.finished
  let last := (st.flush trim).line
  let finished := if last.isEmpty then finished else last :: finished
  if finished.isEmpty then [[]] else finished.reverse

end Wrap

/-- Breaks a line into lines of so many cells. The last glyph of a line may reach beyond them when
it takes more than one. -/
def wrap (trim : Bool) (width : Nat) (line : List Text.Glyph) : List (List Text.Glyph) :=
  (line.foldl (Wrap.State.read trim width) {}).finish trim

end ReviewDesk
