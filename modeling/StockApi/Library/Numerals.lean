import Mathlib.Algebra.Order.Monoid.Unbundled.Basic
import Mathlib.Data.Nat.Cast.Defs

/-!
# Numerals

The evidence behind the small numerals of a field, under one name wherever they are written.
-/

namespace StockApi.Numerals

instance atLeastTwo_two : Nat.AtLeastTwo 2 := ⟨le_rfl⟩

instance atLeastTwo_four : Nat.AtLeastTwo 4 := ⟨by decide⟩

end StockApi.Numerals
