import ReviewDesk.Text.Blank

/-!
Which part of the queue is asked for. A filter made by `Filter.normalized` asks for at least one
item and names a detector only by a text that is not blank and has no blanks around it.
-/

namespace ReviewDesk

structure Filter where
  pendingOnly : Bool := true
  detector : Option String := none
  limit : UInt64 := 50
  offset : UInt64 := 0
deriving DecidableEq

namespace Filter

def defaultLimit : UInt64 := 50

/-- The page sizes that can be stepped through. -/
def limitChoices : List UInt64 := [25, 50, 100, 200]

def normalized (pendingOnly : Bool) (detector : Option String) (limit offset : UInt64) :
    Filter where
  pendingOnly := pendingOnly
  detector := detector.bind Text.trimToOption
  limit := if limit = 0 then 1 else limit
  offset := offset

/-- The parameters of a list request. -/
def query (f : Filter) : List (String × String) :=
  [("limit", toString f.limit.toNat), ("offset", toString f.offset.toNat),
    ("pending_only", if f.pendingOnly then "true" else "false")] ++
    (f.detector.map (("detector_id", ·))).toList

end Filter
end ReviewDesk
