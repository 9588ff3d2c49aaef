/-
# Reading frames

A boundary is given by its kind and an offset, which some kinds need and the others
refuse.  `Frame.of` is the checked way to a frame: it accepts exactly the legal ones
(`Frame.of_eq_ok_iff`).
-/

import SqlCompose.Error
import SqlCompose.Text.Blank

namespace SqlCompose

namespace Boundary

/-- An offset that is not negative. -/
def offset (n : Int64) : Except Error UInt64 :=
  if 0 ≤ n.toInt then .ok (UInt64.ofNat n.toInt.toNat)
  else .error (.invalidFrame (.negativeOffset n))

/-- The boundary of a kind that takes no offset. -/
def fixedKinds : List (String × Boundary) :=
  [("unbounded preceding", .unboundedPreceding), ("unbounded following", .unboundedFollowing),
   ("current row", .currentRow)]

/-- The boundary of a kind that needs an offset. -/
def offsetKinds : List (String × (UInt64 → Boundary)) :=
  [("preceding", .preceding), ("following", .following)]

/-- Reads a boundary. -/
def read (kind : String) (n : Option Int64) : Except Error Boundary :=
  let word := String.ofList (Text.folded kind)
  match offsetKinds.lookup word, fixedKinds.lookup word, n with
  | some boundary, _, some n => (offset n).map boundary
  | some _, _, none => .error (.missingBoundaryOffset word)
  | none, some _, some n => .error (.unexpectedBoundaryOffset word n)
  | none, some boundary, none => .ok boundary
  | none, none, _ => .error (.invalidBoundaryType kind)

end Boundary

namespace Frame

/-- The frame between two boundaries, if it is legal. -/
def of (start stop : Boundary) : Except Error Frame :=
  if start = .unboundedFollowing then .error (.invalidFrame .startsUnboundedFollowing)
  else if stop = .unboundedPreceding then .error (.invalidFrame .stopsUnboundedPreceding)
  else if stop.rank < start.rank then .error (.invalidFrame (.crossed start stop))
  else .ok ⟨start, stop⟩

/-- The frame between two boundaries that are still to be read. -/
def read (start stop : String × Option Int64) : Except Error Frame := do
  of (← Boundary.read start.1 start.2) (← Boundary.read stop.1 stop.2)

/-- The places of the kinds of boundaries tell which frames are legal. -/
theorem isLegal_iff {f : Frame} :
    f.IsLegal ↔ f.start ≠ .unboundedFollowing ∧ f.stop ≠ .unboundedPreceding ∧
      f.start.rank ≤ f.stop.rank := by
  obtain ⟨start, stop⟩ := f
  cases start <;> cases stop <;> simp [IsLegal, legalKinds, Boundary.kind, Boundary.rank]

/-- The checked way to a frame accepts exactly the legal frames. -/
theorem of_eq_ok_iff {start stop : Boundary} {f : Frame} :
    of start stop = .ok f ↔ f = ⟨start, stop⟩ ∧ f.IsLegal := by
  by_cases h₁ : start = .unboundedFollowing
  · simp only [of, h₁, if_true, isLegal_iff]
    constructor
    · simp
    · rintro ⟨rfl, h, _⟩
      exact absurd rfl h
  by_cases h₂ : stop = .unboundedPreceding
  · simp only [of, h₁, h₂, if_true, if_false, isLegal_iff]
    constructor
    · simp
    · rintro ⟨rfl, _, h, _⟩
      exact absurd rfl h
  by_cases h₃ : stop.rank < start.rank
  · simp only [of, h₁, h₂, h₃, if_true, if_false, isLegal_iff]
    constructor
    · simp
    · rintro ⟨rfl, _, _, h⟩
      exact absurd h (Nat.not_le.2 h₃)
  · simp only [of, h₁, h₂, h₃, if_false, isLegal_iff, Except.ok.injEq]
    constructor
    · rintro rfl
      exact ⟨rfl, h₁, h₂, Nat.le_of_not_lt h₃⟩
    · rintro ⟨rfl, _⟩
      rfl

end Frame

namespace Exclusion

/-- The spellings of the exclusions. -/
def spellings : List (String × Exclusion) :=
  [("current row", .currentRow), ("group", .group), ("ties", .ties)]

/-- Reads an exclusion. -/
def read (word : String) : Except Error Exclusion :=
  match spellings.lookup (String.ofList (Text.folded word)) with
  | some exclusion => .ok exclusion
  | none => .error (.invalidExclusion word)

end Exclusion

end SqlCompose
