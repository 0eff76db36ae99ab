/-!
Where a page of a list starts and which pages stand next to it. Offsets, limits and totals are words
of 64 bits; sums stop at the greatest word and differences at zero. Only the number of a page is a
sum that does not stop there: where it is no word, there is none.
-/

namespace ReviewDesk

/-- The sum, or the greatest word. -/
def saturatingAdd (a b : UInt64) : UInt64 :=
  if a.toNat + b.toNat < UInt64.size then a + b else UInt64.ofNat (UInt64.size - 1)

/-- The sum, if it is a word. -/
def checkedAdd (a b : UInt64) : Option UInt64 :=
  if a.toNat + b.toNat < UInt64.size then some (a + b) else none

/-- The difference, or zero. -/
def saturatingSub (a b : UInt64) : UInt64 :=
  if b ≤ a then a - b else 0

structure Paging where
  offset : UInt64
  limit : UInt64
  total : UInt64
deriving DecidableEq

namespace Paging

def prevEnabled (p : Paging) : Bool :=
  0 < p.offset

def nextEnabled (p : Paging) : Bool :=
  saturatingAdd p.offset p.limit < p.total

def prev (p : Paging) : UInt64 :=
  saturatingSub p.offset p.limit

/-- The offset of the next page; it may lie past the end. -/
def next (p : Paging) : UInt64 :=
  saturatingAdd p.offset p.limit

/-- A page holds at least one item. -/
def pageSize (p : Paging) : UInt64 :=
  if p.limit = 0 then 1 else p.limit

/-- The number of the page on which the offset lies, from one, if it is a word. -/
def page? (p : Paging) : Option UInt64 :=
  checkedAdd (p.offset / p.pageSize) 1

/-- How many pages the total fills, at least one. -/
def pages (p : Paging) : UInt64 :=
  let full := p.total / p.pageSize
  let count := if p.total % p.pageSize = 0 then full else full + 1
  if count = 0 then 1 else count

end Paging
end ReviewDesk
