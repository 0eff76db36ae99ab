import ReviewDesk.Console.Board

/-!
The row of the table that stands at a cell of the screen. Where the area of the table has edges that
are coordinates, the row at a cell is the one whose line goes through it, counted from the row that
the table is scrolled to.
-/

namespace ReviewDesk

namespace Rect

/-- The right and the lower edge are coordinates. -/
structure Fits (r : Rect) : Prop where
  right : r.x.toNat + r.width.toNat < UInt16.size
  lower : r.y.toNat + r.height.toNat < UInt16.size

/-- The cell is inside. -/
structure Covers (r : Rect) (x y : UInt16) : Prop where
  left : r.x.toNat ≤ x.toNat
  right : x.toNat < r.x.toNat + r.width.toNat
  upper : r.y.toNat ≤ y.toNat
  lower : y.toNat < r.y.toNat + r.height.toNat

theorem add_toNat {a b : UInt16} (fits : a.toNat + b.toNat < UInt16.size) :
    (a + b).toNat = a.toNat + b.toNat := by
  rw [UInt16.toNat_add, Nat.mod_eq_of_lt fits]

theorem saturating_toNat {a b : UInt16} (fits : a.toNat + b.toNat < UInt16.size) :
    (saturating a b).toNat = a.toNat + b.toNat := by
  rw [saturating, if_pos fits, add_toNat fits]

variable {r : Rect}

theorem contains_iff (fits : r.Fits) (x y : UInt16) : r.contains x y = true ↔ r.Covers x y := by
  simp only [contains, Bool.and_eq_true, decide_eq_true_iff, UInt16.le_iff_toNat_le,
    UInt16.lt_iff_toNat_lt, saturating_toNat fits.right, saturating_toNat fits.lower]
  constructor
  · rintro ⟨⟨⟨left, right⟩, upper⟩, lower⟩
    exact ⟨left, right, upper, lower⟩
  · rintro ⟨left, right, upper, lower⟩
    exact ⟨⟨⟨left, right⟩, upper⟩, lower⟩

/-- Below the frame and the header, and above the frame again, there is a line for each row. -/
theorem tableRow?_eq_some_iff (fits : r.Fits) (y : UInt16) (row : Nat) :
    r.tableRow? y = some row ↔ row + 3 < r.height.toNat ∧ y.toNat = r.y.toNat + 2 + row := by
  have edge := fits.lower
  by_cases low : r.height ≤ 3
  · rw [tableRow?, if_pos low]
    have few : r.height.toNat ≤ 3 := UInt16.le_iff_toNat_le.mp low
    simp only [reduceCtorEq, false_iff]
    omega
  · have high : 3 < r.height.toNat := by
      rw [UInt16.le_iff_toNat_le] at low
      exact Nat.lt_of_not_le low
    have first : (saturating r.y 2).toNat = r.y.toNat + 2 := by
      have two : r.y.toNat + (2 : UInt16).toNat < UInt16.size := by
        change r.y.toNat + 2 < _
        omega
      exact saturating_toNat two
    have last : (r.y + r.height - 1).toNat = r.y.toNat + r.height.toNat - 1 := by
      have one : 1 ≤ r.y + r.height := by
        rw [UInt16.le_iff_toNat_le, add_toNat edge]
        change 1 ≤ _
        omega
      rw [UInt16.toNat_sub_of_le _ _ one, add_toNat edge]
      rfl
    rw [tableRow?, if_neg low]
    simp only [UInt16.le_iff_toNat_le, UInt16.lt_iff_toNat_lt, first, last]
    split
    case isTrue inside =>
      have reached : saturating r.y 2 ≤ y := UInt16.le_iff_toNat_le.mpr (first ▸ inside.1)
      rw [UInt16.toNat_sub_of_le _ _ reached, first, Option.some.injEq]
      omega
    case isFalse outside =>
      simp only [reduceCtorEq, false_iff]
      omega

end Rect

namespace Board

theorem getElem?_of_rowAt? {b : Board} {x y : UInt16} {index : Nat} {id : String}
    (found : b.rowAt? x y = some (index, id)) : b.rowIds[index]? = some id := by
  simp only [rowAt?, Option.bind_eq_bind, Option.bind_eq_some_iff] at found
  obtain ⟨area, -, found⟩ := found
  split at found
  · simp only [Option.bind_eq_some_iff] at found
    obtain ⟨row, -, other, known, same⟩ := found
    cases same
    exact known
  · cases found

/-- A row is found at a cell if the line of the row goes through the cell. -/
theorem rowAt?_eq_some_iff {b : Board} {area : Rect} (shown : b.tableArea = some area)
    (fits : area.Fits) (x y : UInt16) (index : Nat) (id : String) :
    b.rowAt? x y = some (index, id) ↔ area.Covers x y ∧
      (∃ row, row + 3 < area.height.toNat ∧ y.toNat = area.y.toNat + 2 + row ∧
        index = b.firstRow + row) ∧ b.rowIds[index]? = some id := by
  rw [rowAt?, shown, Option.bind_eq_bind, Option.bind_some]
  by_cases inside : area.Covers x y
  · rw [if_pos ((area.contains_iff fits x y).mpr inside)]
    simp only [Option.bind_eq_bind, Option.bind_eq_some_iff, Rect.tableRow?_eq_some_iff fits]
    constructor
    · rintro ⟨row, ⟨high, line⟩, other, found, same⟩
      cases same
      exact ⟨inside, ⟨row, high, line, Nat.add_comm ..⟩, found⟩
    · rintro ⟨-, ⟨row, high, line, rfl⟩, found⟩
      rw [Nat.add_comm] at found
      exact ⟨row, ⟨high, line⟩, id, found, by rw [Nat.add_comm]⟩
  · rw [if_neg (mt (area.contains_iff fits x y).mp inside)]
    simp [inside]

end Board
end ReviewDesk
