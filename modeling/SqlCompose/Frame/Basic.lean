/-
# Window frames

The part of a window that a frame covers, from one boundary to another, in rows,
in values or in groups of peers, and what is left out of it.
-/

import SqlCompose.Decimal.Numeral

namespace SqlCompose

open Decimal (Numeral.text)

/-- The kinds of edges of a window frame. -/
inductive BoundaryKind where
  | unboundedPreceding | preceding | currentRow | following | unboundedFollowing
  deriving DecidableEq

/-- One edge of a window frame. -/
inductive Boundary where
  | unboundedPreceding
  | preceding (offset : UInt64)
  | currentRow
  | following (offset : UInt64)
  | unboundedFollowing
  deriving DecidableEq

namespace Boundary

/-- The SQL text of a boundary. -/
def text : Boundary → String
  | .unboundedPreceding => "UNBOUNDED PRECEDING"
  | .preceding n => Numeral.text n.toNat ++ " PRECEDING"
  | .currentRow => "CURRENT ROW"
  | .following n => Numeral.text n.toNat ++ " FOLLOWING"
  | .unboundedFollowing => "UNBOUNDED FOLLOWING"

/-- The kind of a boundary. -/
def kind : Boundary → BoundaryKind
  | .unboundedPreceding => .unboundedPreceding
  | .preceding _ => .preceding
  | .currentRow => .currentRow
  | .following _ => .following
  | .unboundedFollowing => .unboundedFollowing

/-- The place of a boundary among the kinds of boundaries; offsets do not count. -/
def rank : Boundary → Nat
  | .unboundedPreceding => 0
  | .preceding _ => 1
  | .currentRow => 2
  | .following _ => 3
  | .unboundedFollowing => 4

end Boundary

/-- The extent of a window frame. -/
structure Frame where
  start : Boundary
  stop : Boundary
  deriving DecidableEq

namespace Frame

/-- The extent from the first row to the last. -/
def whole : Frame :=
  ⟨.unboundedPreceding, .unboundedFollowing⟩

/-- The SQL text of an extent. -/
def text (f : Frame) : String :=
  "BETWEEN " ++ f.start.text ++ " AND " ++ f.stop.text

/-- From which kind of boundary to which an extent may lead.  It never leads back, it does not begin
where all rows end, and it does not end where they begin. -/
def legalKinds : List (BoundaryKind × BoundaryKind) :=
  [(.unboundedPreceding, .preceding), (.unboundedPreceding, .currentRow),
   (.unboundedPreceding, .following), (.unboundedPreceding, .unboundedFollowing),
   (.preceding, .preceding), (.preceding, .currentRow), (.preceding, .following),
   (.preceding, .unboundedFollowing),
   (.currentRow, .currentRow), (.currentRow, .following), (.currentRow, .unboundedFollowing),
   (.following, .following), (.following, .unboundedFollowing)]

/-- An extent that a server accepts. -/
def IsLegal (f : Frame) : Prop :=
  (f.start.kind, f.stop.kind) ∈ legalKinds

instance (f : Frame) : Decidable f.IsLegal :=
  inferInstanceAs (Decidable (_ ∈ _))

end Frame

/-- What the offsets of a frame count. -/
inductive FrameUnit where
  | rows | range | groups
  deriving DecidableEq

namespace FrameUnit

/-- The SQL text of a unit. -/
def keyword : FrameUnit → String
  | .rows => "ROWS"
  | .range => "RANGE"
  | .groups => "GROUPS"

/-- The name under which a unit is stored. -/
def name : FrameUnit → String
  | .rows => "Rows"
  | .range => "Range"
  | .groups => "Groups"

/-- The unit stored under a name. -/
def ofName? (name : String) : Option FrameUnit :=
  [rows, range, groups].find? (·.name = name)

end FrameUnit

/-- What a frame leaves out. -/
inductive Exclusion where
  | currentRow | group | ties
  deriving DecidableEq

namespace Exclusion

/-- The SQL text of an exclusion. -/
def keyword : Exclusion → String
  | .currentRow => "CURRENT ROW"
  | .group => "GROUP"
  | .ties => "TIES"

/-- The name under which an exclusion is stored. -/
def name : Exclusion → String
  | .currentRow => "CurrentRow"
  | .group => "Group"
  | .ties => "Ties"

/-- The exclusion stored under a name. -/
def ofName? (name : String) : Option Exclusion :=
  [currentRow, group, ties].find? (·.name = name)

end Exclusion

end SqlCompose
