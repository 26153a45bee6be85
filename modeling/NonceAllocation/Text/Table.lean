namespace NonceAllocation

/-!
# Tables of characters

A table lists runs of code points, each with what it says of them.  It is written as lines of text:
runs between blanks, and in each run hexadecimal numbers between points, the first of them the
distance from the end of the run before.

* `Table.runs` — each run has its length after the distance;
* `Table.points` — each run is a single code point;
* `Table.find?` — the run that a character lies in.
-/

/-- Code points in a row, and what a table says of them. -/
structure Run where
  start : Nat
  count : Nat
  payload : List Nat
deriving DecidableEq

namespace Table

/-- The value of a hexadecimal digit. -/
def digit (c : Char) : Nat := if c.isDigit then c.toNat - 48 else c.toNat - 87

/-- The numbers of each run of a line; `run` and `n` are what has been read of the last one. -/
def numbers (run : List Nat) (n : Nat) : List Char → List (List Nat)
  | [] => [(n :: run).reverse]
  | c :: cs =>
    if c = ' ' then (n :: run).reverse :: numbers [] 0 cs
    else if c = '.' then numbers (n :: run) 0 cs
    else numbers run (n * 16 + digit c) cs

/-- The numbers of each run. -/
def rows (lines : List String) : List (List Nat) := lines.flatMap fun s => numbers [] 0 s.toList

/-- Runs with their lengths, behind the code point `after`. -/
def runsFrom (after : Nat) : List (List Nat) → List Run
  | (gap :: count :: payload) :: rows =>
    ⟨after + gap, count, payload⟩ :: runsFrom (after + gap + count) rows
  | _ => []

/-- Single code points, behind the code point `after`. -/
def pointsFrom (after : Nat) : List (List Nat) → List Run
  | (gap :: payload) :: rows => ⟨after + gap, 1, payload⟩ :: pointsFrom (after + gap + 1) rows
  | _ => []

def runs (lines : List String) : List Run := runsFrom 0 (rows lines)

def points (lines : List String) : List Run := pointsFrom 0 (rows lines)

/-- The run that a character lies in. -/
def find? (table : List Run) (c : Char) : Option Run :=
  table.find? fun r => decide (r.start ≤ c.toNat ∧ c.toNat < r.start + r.count)

end Table

end NonceAllocation
