import OverlayGateway.Text.Basic
/-!
Tables over code points. A table is written as items with a space between them, in ascending order:
a code point in base 16, or the first and the last one of a range with a dash between them, or with a
slash where only every second one is meant; behind a colon stand the values that go with them. A
look-up halves the rows until the one is left that the code point can be in.
-/

set_option autoImplicit false
set_option relaxedAutoImplicit false

namespace OverlayGateway.Text

/-- Code points at equal steps, and what a table says about them. -/
structure PointRow where
  first : Nat
  last : Nat
  step : Nat := 1
  values : List Nat := []
  deriving DecidableEq, Repr

structure PointTable where
  rows : Array PointRow
  deriving Repr

namespace PointRow

/-- Whether a code point lies between the two ends of a row, both included. -/
def spans (row : PointRow) (n : Nat) : Bool := row.first ≤ n && n ≤ row.last

def contains (row : PointRow) (n : Nat) : Bool :=
  row.spans n && (n - row.first) % row.step = 0

/-- A number in base 16. -/
def number? (cs : List Char) : Option Nat :=
  if cs = [] then none
  else cs.foldlM (fun n c ↦ (hexValue? c).map fun d ↦ n * 16 + d) 0

/-- The row without values that the text in front of a colon stands for. -/
def ofSpan? (cs : List Char) : Option PointRow :=
  match cutAt '-' cs, cutAt '/' cs with
  | some (first, last), _ => return { first := ← number? first, last := ← number? last }
  | none, some (first, last) =>
    return { first := ← number? first, last := ← number? last, step := 2 }
  | none, none => (number? cs).map fun n ↦ { first := n, last := n }

def ofItem? (cs : List Char) : Option PointRow :=
  match cutAt ':' cs with
  | some (front, values) => do
    let row ← ofSpan? front
    return { row with values := ← (pieces ',' values).mapM number? }
  | none => ofSpan? cs

end PointRow

namespace PointTable

/-- The table that some lines write down. -/
def ofLines (lines : List String) : PointTable :=
  ⟨(lines.flatMap fun line ↦ (pieces ' ' line.toList).filterMap PointRow.ofItem?).toArray⟩

/-- The row that spans a code point, among those from `low` on and below `high`. -/
def spanning? (rows : Array PointRow) (n low high : Nat) : Option PointRow :=
  if low < high then
    match rows[(low + high) / 2]? with
    | none => none
    | some row =>
      if n < row.first then spanning? rows n low ((low + high) / 2)
      else if row.last < n then spanning? rows n ((low + high) / 2 + 1) high
      else some row
  else none
termination_by high - low

/-- The row that a code point is in. -/
def row? (table : PointTable) (n : Nat) : Option PointRow :=
  (spanning? table.rows n 0 table.rows.size).filter fun row ↦ row.contains n

def contains (table : PointTable) (c : Char) : Bool := (table.row? c.toNat).isSome

/-- The first of the values of a character. -/
def value? (table : PointTable) (c : Char) : Option Nat :=
  (table.row? c.toNat).bind fun row ↦ row.values.head?

end PointTable

end OverlayGateway.Text
