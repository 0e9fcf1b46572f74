import IndentLint.Number.Quantity

/-! Widths in columns. They are whole numbers unless the unit is given otherwise. -/
namespace IndentLint.Layout

open Number (Quantity)

class Width (α : Type) where
  zero : α
  /-- Moves a width by so many units, but not below zero. -/
  shift (width : α) (levels : Int) (unit : α) : α
  wider (a b : α) : α
  compare (columns : Nat) (width : α) : Ordering
  column (width : α) : Int

instance : Width Int where
  zero := 0
  shift width levels unit := max 0 (width + levels * unit)
  wider a b := max a b
  compare columns width := Ord.compare (columns : Int) width
  column width := width

instance : Width Quantity where
  zero := .whole 0
  shift width levels unit :=
    let moved := width.add (unit.times levels)
    if Quantity.isBelow (.whole 0) moved then moved else .whole 0
  wider a b := if a.isBelow b then b else a
  compare columns width :=
    if width.isBelow (.whole columns) then .gt
    else if Quantity.isBelow (.whole columns) width then .lt
    else .eq
  column width := width.ceil

end IndentLint.Layout
