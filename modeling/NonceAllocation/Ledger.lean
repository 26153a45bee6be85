import NonceAllocation.Record

namespace NonceAllocation

/-!
# The transaction ledger

A ledger holds one record per id, the latest version of each.  It is kept in the order of the ids,
so that a query answers in that order.

* `Ledger.put`, `Ledger.get?`, `Ledger.remove`, `Ledger.erase` — one record by its id;
* `Ledger.query` — the records of an account in a status;
* `Ledger.sorted_place` — storing keeps the order, hence one record per id.
-/

/-- Records by id, in the order of their ids. -/
structure Ledger (Account : Type) (bits : Nat) where
  records : List (Record Account bits)
  sorted : records.Pairwise (fun a b => a.id < b.id)
deriving DecidableEq

namespace Ledger

variable {Account : Type} {bits : Nat}

/-- The ledger without records. -/
def empty : Ledger Account bits := ⟨[], List.Pairwise.nil⟩

/-- Places `r` among records in the order of ids, in the stead of one with its id. -/
def place (r : Record Account bits) : List (Record Account bits) → List (Record Account bits)
  | [] => [r]
  | x :: xs =>
    if r.id < x.id then r :: x :: xs
    else if r.id = x.id then r :: xs
    else x :: place r xs

theorem mem_place {r y : Record Account bits} {xs : List (Record Account bits)}
    (h : y ∈ place r xs) : y = r ∨ y ∈ xs := by
  induction xs with
  | nil => simpa [place] using h
  | cons x xs ih =>
    rw [place] at h
    split at h
    · simpa using h
    · split at h
      · rcases List.mem_cons.1 h with rfl | h
        · exact .inl rfl
        · exact .inr (List.mem_cons_of_mem _ h)
      · rcases List.mem_cons.1 h with rfl | h
        · exact .inr List.mem_cons_self
        · exact (ih h).imp id (List.mem_cons_of_mem _)

theorem sorted_place (r : Record Account bits) {xs : List (Record Account bits)}
    (h : xs.Pairwise (fun a b => a.id < b.id)) :
    (place r xs).Pairwise (fun a b => a.id < b.id) := by
  induction xs with
  | nil => exact List.pairwise_singleton _ _
  | cons x xs ih =>
    rw [List.pairwise_cons] at h
    rw [place]
    split
    · rename_i hlt
      refine List.pairwise_cons.2 ⟨fun y hy => ?_, List.pairwise_cons.2 h⟩
      rcases List.mem_cons.1 hy with rfl | hy
      · exact hlt
      · exact String.lt_trans hlt (h.1 y hy)
    · rename_i hnlt
      split
      · rename_i heq
        exact List.pairwise_cons.2 ⟨fun y hy => heq ▸ h.1 y hy, h.2⟩
      · rename_i hne
        refine List.pairwise_cons.2 ⟨fun y hy => ?_, ih h.2⟩
        rcases mem_place hy with rfl | hy
        · refine Decidable.byContradiction fun hn => ?_
          exact hne (String.le_antisymm (String.not_lt.1 hn) (String.not_lt.1 hnlt))
        · exact h.1 y hy

/-- Stores the record, in the stead of one with its id. -/
def put (l : Ledger Account bits) (r : Record Account bits) : Ledger Account bits :=
  ⟨place r l.records, sorted_place r l.sorted⟩

/-- The record of an id. -/
def get? (l : Ledger Account bits) (id : String) : Option (Record Account bits) :=
  l.records.find? (fun r => r.id == id)

/-- Removes the record of an id, if there is one. -/
def erase (l : Ledger Account bits) (id : String) : Ledger Account bits :=
  ⟨l.records.filter (fun r => r.id != id), l.sorted.filter _⟩

/-- Takes the record of an id out of records: that record, and the others. -/
def takeOut (id : String) :
    List (Record Account bits) → Option (Record Account bits) × List (Record Account bits)
  | [] => (none, [])
  | x :: xs => if x.id = id then (some x, xs) else ((takeOut id xs).1, x :: (takeOut id xs).2)

theorem takeOut_sublist (id : String) (xs : List (Record Account bits)) :
    (takeOut id xs).2.Sublist xs := by
  induction xs with
  | nil => exact List.Sublist.refl _
  | cons x xs ih =>
    rw [takeOut]
    split
    · exact List.sublist_cons_self x xs
    · exact ih.cons_cons x

/-- Removes the record of an id and tells it, if there is one. -/
def remove (l : Ledger Account bits) (id : String) :
    Option (Record Account bits) × Ledger Account bits :=
  ((takeOut id l.records).1, ⟨(takeOut id l.records).2, l.sorted.sublist (takeOut_sublist id _)⟩)

/-- The number of records. -/
def size (l : Ledger Account bits) : Nat := l.records.length

def isEmpty (l : Ledger Account bits) : Bool := l.records.isEmpty

/-- The records of `account` that are in `status`. -/
def query [DecidableEq Account] (l : Ledger Account bits) (account : Account) (status : Status) :
    List (Record Account bits) :=
  l.records.filter (fun r => decide (r.account = account ∧ r.status = status))

/-- The ledger that results from storing the records in turn. -/
def ofList (rs : List (Record Account bits)) : Ledger Account bits := rs.foldl put empty

end Ledger

end NonceAllocation
