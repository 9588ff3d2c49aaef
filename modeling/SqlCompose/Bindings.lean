/-
# Bindings

The values of a statement stand in it as constants, or they are bound to it and a
numbered placeholder stands for each of them.  Which of the two happens is decided
value by value, by a writer; what is written around the values does not depend on it.
-/

import SqlCompose.Value

namespace SqlCompose

open Decimal (Numeral.text)

/-- The text that stands for the value of a number. -/
def placeholder (n : Nat) : String :=
  "$" ++ Numeral.text n

/-- The values bound to a statement so far, and the number of the last one.  The first
one has the number 1. -/
structure Bindings where
  index : Nat := 0
  values : List Value := []

namespace Bindings

/-- Binds one value and gives its placeholder. -/
def add (b : Bindings) (v : Value) : String × Bindings :=
  (placeholder (b.index + 1), ⟨b.index + 1, b.values ++ [v]⟩)

end Bindings

/-- How single values are written, and what is kept from one to the next. -/
abbrev ValueWriter (σ : Type) : Type :=
  Value → StateM σ String

namespace ValueWriter

/-- Values as constants.  Nothing is kept. -/
def constants : ValueWriter Unit :=
  fun v => pure v.literal

/-- Values as placeholders of their numbers.  The values are kept. -/
def placeholders : ValueWriter Bindings :=
  fun v b => b.add v

end ValueWriter

end SqlCompose
