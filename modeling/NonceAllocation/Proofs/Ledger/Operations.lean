import Mathlib.Data.List.Sort
import Mathlib.Logic.Relation
import NonceAllocation.Proofs.Ledger.Use

namespace NonceAllocation

/-!
# Ledgers — operations one after the other

Everything that can be asked of a ledger, as one type of operations, and what each leaves under an
id, told once:

* `Ledger.get?_put`, `Ledger.get?_erase`, `Ledger.remove_eq` — one record by its id, after a change;
* `Ledger.ext_get?` — a ledger is what is found in it;
* `Ledger.Op`, `Ledger.perform`, `Ledger.after` — operations, what they tell and what they leave;
* `Ledger.Op.left?`, `Ledger.get?_perform` — an operation concerns one id at most;
* `Ledger.Reordered`, `Ledger.after_reordered` — operations on different ids in another order leave
  the same ledger.
-/

variable {Account : Type} {bits : Nat}

namespace Ledger

variable {l l' : Ledger Account bits} {r x y : Record Account bits} {id : String}

/-! ### What is found after a change -/

/-- A record is found under its own id. -/
theorem get?_self_iff : l.get? r.id = some r ↔ r ∈ l.records := by
  rw [get?_eq_some_iff, and_iff_left rfl]

@[simp] theorem get?_empty : (empty : Ledger Account bits).get? id = none := rfl

theorem get?_put (l : Ledger Account bits) (r : Record Account bits) (id : String) :
    (l.put r).get? id = if r.id = id then some r else l.get? id := by
  refine Option.ext fun x => ?_
  rw [get?_eq_some_iff, mem_put]
  by_cases hid : r.id = id
  · rw [if_pos hid, Option.some.injEq]
    constructor
    · rintro ⟨rfl | ⟨-, hne⟩, hx⟩
      · rfl
      · exact absurd (hx.trans hid.symm) hne
    · rintro rfl
      exact ⟨.inl rfl, hid⟩
  · rw [if_neg hid, get?_eq_some_iff]
    constructor
    · rintro ⟨rfl | ⟨hx, -⟩, hx'⟩
      · exact absurd hx' hid
      · exact ⟨hx, hx'⟩
    · rintro ⟨hx, rfl⟩
      exact ⟨.inr ⟨hx, Ne.symm hid⟩, rfl⟩

@[simp] theorem mem_erase : y ∈ (l.erase id).records ↔ y ∈ l.records ∧ y.id ≠ id := by
  simp [erase]

theorem get?_erase (l : Ledger Account bits) (id id' : String) :
    (l.erase id).get? id' = if id = id' then none else l.get? id' := by
  by_cases hid : id = id'
  · rw [if_pos hid, get?_eq_none_iff]
    intro r hr
    rw [← hid]
    exact (mem_erase.1 hr).2
  · rw [if_neg hid]
    refine Option.ext fun x => ?_
    rw [get?_eq_some_iff, get?_eq_some_iff, mem_erase]
    constructor
    · rintro ⟨⟨hx, -⟩, hx'⟩
      exact ⟨hx, hx'⟩
    · rintro ⟨hx, rfl⟩
      exact ⟨⟨hx, Ne.symm hid⟩, rfl⟩

theorem takeOut_eq {xs : List (Record Account bits)} (h : xs.Pairwise (fun a b => a.id < b.id)) :
    takeOut id xs = (xs.find? (fun r => r.id == id), xs.filter (fun r => r.id != id)) := by
  induction xs with
  | nil => rfl
  | cons x xs ih =>
    obtain ⟨hx, hxs⟩ := List.pairwise_cons.1 h
    rw [takeOut]
    by_cases hid : x.id = id
    · -- No other record has the id, so that all the others stay.
      have hothers : ∀ z ∈ xs, (z.id != id) = true := by
        intro z hz
        rw [bne_iff_ne, ← hid]
        exact id_ne_of_lt (hx z hz)
      rw [if_pos hid, List.find?_cons_of_pos (by simp [hid]),
        List.filter_cons_of_neg (by simp [hid]), List.filter_eq_self.2 hothers]
    · rw [if_neg hid, ih hxs, List.find?_cons_of_neg (by simp [hid]),
        List.filter_cons_of_pos (by simp [hid])]

/-- What is removed is what was found, and all else stays. -/
theorem remove_eq (l : Ledger Account bits) (id : String) :
    l.remove id = (l.get? id, l.erase id) := by
  have h : takeOut id l.records = _ := takeOut_eq l.sorted
  simp only [remove, get?, erase, h]

/-- Records in the order of their ids are told by which they are. -/
theorem records_eq_of_mem_iff {xs ys : List (Record Account bits)}
    (hx : xs.Pairwise (fun a b => a.id < b.id)) (hy : ys.Pairwise (fun a b => a.id < b.id))
    (h : ∀ r, r ∈ xs ↔ r ∈ ys) : xs = ys := by
  have hirrefl : Std.Irrefl fun a b : Record Account bits => a.id < b.id :=
    ⟨fun a => String.lt_irrefl a.id⟩
  have hasymm : Std.Antisymm fun a b : Record Account bits => a.id < b.id :=
    ⟨fun a b hab hba => absurd (String.lt_trans hab hba) (String.lt_irrefl a.id)⟩
  exact hx.eq_of_mem_iff hy h

/-- Two ledgers in which the same is found are the same. -/
theorem ext_get? (h : ∀ id, l.get? id = l'.get? id) : l = l' := by
  have hmem : ∀ r, r ∈ l.records ↔ r ∈ l'.records := by
    intro r
    rw [← get?_self_iff, h, get?_self_iff]
  have hrecords : l.records = l'.records := records_eq_of_mem_iff l.sorted l'.sorted hmem
  cases l
  cases l'
  cases hrecords
  rfl

/-! ### Operations -/

/-- Something asked of a ledger. -/
inductive Op (Account : Type) (bits : Nat) where
  | put (record : Record Account bits)
  | remove (id : String)
  | get (id : String)
  | size
  | isEmpty
  | query (account : Account) (status : Status)

/-- What a ledger tells. -/
inductive Reply (Account : Type) (bits : Nat) where
  | done
  | record (record : Option (Record Account bits))
  | number (n : Nat)
  | truth (b : Bool)
  | records (records : List (Record Account bits))

/-- What an operation tells, and the ledger after it. -/
def perform [DecidableEq Account] (l : Ledger Account bits) :
    Op Account bits → Reply Account bits × Ledger Account bits
  | .put r => (.done, l.put r)
  | .remove id => (.record (l.remove id).1, (l.remove id).2)
  | .get id => (.record (l.get? id), l)
  | .size => (.number l.size, l)
  | .isEmpty => (.truth l.isEmpty, l)
  | .query account status => (.records (l.query account status), l)

/-- The ledger after some operations, one after the other. -/
def after [DecidableEq Account] (l : Ledger Account bits) (ops : List (Op Account bits)) :
    Ledger Account bits :=
  ops.foldl (fun l op => (l.perform op).2) l

/-- The id that an operation may change. -/
def Op.id? : Op Account bits → Option String
  | .put r => some r.id
  | .remove id => some id
  | _ => none

/-- What an operation leaves under an id; `none` if it leaves what was there. -/
def Op.left? (id : String) : Op Account bits → Option (Option (Record Account bits))
  | .put r => if r.id = id then some (some r) else none
  | .remove id' => if id' = id then some none else none
  | _ => none

theorem Op.left?_eq_none_iff {op : Op Account bits} : op.left? id = none ↔ op.id? ≠ some id := by
  cases op <;> simp [left?, id?]

theorem Op.left?_eq_some_iff {op : Op Account bits} : op.left? id = some (some r) ↔
    op = .put r ∧ r.id = id := by
  cases op with
  | put r' =>
    simp only [left?, Option.ite_none_right_eq_some, Option.some.injEq, put.injEq]
    constructor
    · rintro ⟨hid, rfl⟩
      exact ⟨rfl, hid⟩
    · rintro ⟨rfl, hid⟩
      exact ⟨hid, rfl⟩
  | remove id' => simp [left?]
  | get id' => simp [left?]
  | size => simp [left?]
  | isEmpty => simp [left?]
  | query account status => simp [left?]

variable [DecidableEq Account]

theorem get?_perform (l : Ledger Account bits) (op : Op Account bits) (id : String) :
    (l.perform op).2.get? id = (op.left? id).getD (l.get? id) := by
  cases op with
  | put r =>
    show (l.put r).get? id = _
    rw [get?_put, Op.left?]
    split <;> rfl
  | remove id' =>
    show (l.remove id').2.get? id = _
    rw [remove_eq, get?_erase, Op.left?]
    split <;> rfl
  | get id' => rfl
  | size => rfl
  | isEmpty => rfl
  | query account status => rfl

/-- Under another id all stays as it was. -/
theorem get?_perform_of_ne {op : Op Account bits} (h : op.id? ≠ some id) :
    (l.perform op).2.get? id = l.get? id := by
  rw [get?_perform, Op.left?_eq_none_iff.2 h]
  rfl

@[simp] theorem after_nil (l : Ledger Account bits) : l.after [] = l := rfl

@[simp] theorem after_cons (l : Ledger Account bits) (op : Op Account bits)
    (ops : List (Op Account bits)) : l.after (op :: ops) = (l.perform op).2.after ops := rfl

theorem after_append (l : Ledger Account bits) (ops ops' : List (Op Account bits)) :
    l.after (ops ++ ops') = (l.after ops).after ops' :=
  List.foldl_append

/-! ### Operations on different ids -/

omit [DecidableEq Account] in
/-- Whether the operations change no id both. -/
def Op.Apart (op op' : Op Account bits) : Prop := ∀ id, op.id? ≠ some id ∨ op'.id? ≠ some id

/-- Two operations on different ids may change places. -/
theorem perform_comm {op op' : Op Account bits} (h : op.Apart op') (l : Ledger Account bits) :
    ((l.perform op).2.perform op').2 = ((l.perform op').2.perform op).2 := by
  refine ext_get? fun id => ?_
  rw [get?_perform, get?_perform, get?_perform, get?_perform]
  -- One of the two leaves the id as it is.
  rcases h id with hid | hid
  · rw [Op.left?_eq_none_iff.2 hid]
    rfl
  · rw [Op.left?_eq_none_iff.2 hid]
    rfl

omit [DecidableEq Account] in
/-- Two neighbouring operations on different ids change places. -/
inductive Swap : List (Op Account bits) → List (Op Account bits) → Prop where
  | swap (before : List (Op Account bits)) (op op' : Op Account bits)
      (later : List (Op Account bits)) (h : op.Apart op') :
      Swap (before ++ op :: op' :: later) (before ++ op' :: op :: later)

omit [DecidableEq Account] in
/-- The same operations in another order, those on one id in the same order. -/
def Reordered : List (Op Account bits) → List (Op Account bits) → Prop :=
  Relation.ReflTransGen Swap

theorem after_swap {ops ops' : List (Op Account bits)} (h : Swap ops ops')
    (l : Ledger Account bits) : l.after ops = l.after ops' := by
  cases h with
  | swap before op op' later hapart =>
    rw [after_append, after_append, after_cons, after_cons, after_cons, after_cons,
      perform_comm hapart]

theorem after_reordered {ops ops' : List (Op Account bits)} (h : Reordered ops ops')
    (l : Ledger Account bits) : l.after ops = l.after ops' := by
  induction h with
  | refl => rfl
  | tail _ hswap ih => rw [ih, after_swap hswap]

end Ledger

end NonceAllocation
