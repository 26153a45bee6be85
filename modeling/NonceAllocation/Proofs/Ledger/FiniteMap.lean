import Mathlib.Data.Finmap
import Mathlib.Tactic.Tauto
import NonceAllocation.Proofs.Ledger.Operations

namespace NonceAllocation

/-!
# Ledgers — a finite map from ids to records

A ledger does what a finite map does that stores each record under its id:

* `RecordMap`, `RecordMap.after`, `RecordMap.Tells` — the map, the same operations on it, and what
  each of them has to tell;
* `Ledger.Represents`, `Ledger.Represents.perform`, `Ledger.Represents.after` — a ledger with the
  entries of a map keeps them, step by step;
* `Ledger.Latest`, `Ledger.get?_after_eq_some_iff` — what is found under an id was stored last;
* `Ledger.nodup_statuses`, `Ledger.mem_statuses` — the statuses split the records of an account;
* `Ledger.StoresLatest`, `Ledger.storesLatest_after` — all of it together, after any operations.
-/

variable {Account : Type} {bits : Nat}

/-- Records by their ids. -/
abbrev RecordMap (Account : Type) (bits : Nat) := Finmap fun _ : String => Record Account bits

namespace RecordMap

open Ledger (Op Reply)

variable {m : RecordMap Account bits} {id : String}

/-- The map after an operation. -/
def next (m : RecordMap Account bits) : Op Account bits → RecordMap Account bits
  | .put r => m.insert r.id r
  | .remove id => m.erase id
  | _ => m

/-- The map after some operations, one after the other. -/
def after (m : RecordMap Account bits) (ops : List (Op Account bits)) : RecordMap Account bits :=
  ops.foldl next m

/-- What an operation may tell of the map.  The order of the records that a query tells is open. -/
def Tells (m : RecordMap Account bits) : Op Account bits → Reply Account bits → Prop
  | .put _, reply => reply = .done
  | .remove id, reply => reply = .record (m.lookup id)
  | .get id, reply => reply = .record (m.lookup id)
  | .size, reply => reply = .number m.keys.card
  | .isEmpty, reply => reply = .truth (decide (m.keys.card = 0))
  | .query account status, reply => ∃ rs, reply = .records rs ∧ rs.Nodup ∧
      ∀ r, r ∈ rs ↔ m.lookup r.id = some r ∧ r.account = account ∧ r.status = status

theorem lookup_next (m : RecordMap Account bits) (op : Op Account bits) (id : String) :
    (m.next op).lookup id = (op.left? id).getD (m.lookup id) := by
  cases op with
  | put r =>
    rw [next, Op.left?]
    by_cases hid : r.id = id
    · rw [if_pos hid, hid, Finmap.lookup_insert]
      rfl
    · rw [if_neg hid, Finmap.lookup_insert_of_ne _ (Ne.symm hid)]
      rfl
  | remove id' =>
    rw [next, Op.left?]
    by_cases hid : id' = id
    · rw [if_pos hid, hid, Finmap.lookup_erase]
      rfl
    · rw [if_neg hid, Finmap.lookup_erase_ne (Ne.symm hid)]
      rfl
  | get id' => rfl
  | size => rfl
  | isEmpty => rfl
  | query account status => rfl

end RecordMap

namespace Ledger

variable {l : Ledger Account bits} {m : RecordMap Account bits} {r : Record Account bits}
  {id : String}

/-- A query tells no record twice. -/
theorem nodup_query [DecidableEq Account] (l : Ledger Account bits) (account : Account)
    (status : Status) : (l.query account status).Nodup :=
  l.nodup_ids.of_map.filter _

/-! ### A ledger beside a map -/

/-- Whether the same is found in the ledger and in the map. -/
def Represents (l : Ledger Account bits) (m : RecordMap Account bits) : Prop :=
  ∀ id, l.get? id = m.lookup id

namespace Represents

theorem empty : (Ledger.empty : Ledger Account bits).Represents ∅ := fun _ => rfl

theorem mem_iff (h : l.Represents m) : m.lookup r.id = some r ↔ r ∈ l.records := by
  rw [← h, get?_self_iff]

/-- There are as many records as there are ids in the map. -/
theorem size_eq (h : l.Represents m) : l.size = m.keys.card := by
  have hkeys : m.keys = (l.records.map Record.id).toFinset := by
    refine Finset.ext fun id => ?_
    rw [Finmap.mem_keys, ← Finmap.lookup_isSome, ← h, List.mem_toFinset, List.mem_map,
      Option.isSome_iff_exists]
    exact exists_congr fun r => get?_eq_some_iff
  rw [hkeys, List.toFinset_card_of_nodup l.nodup_ids, List.length_map]
  rfl

theorem isEmpty_eq (h : l.Represents m) : l.isEmpty = decide (m.keys.card = 0) := by
  rw [← h.size_eq, Bool.eq_iff_iff, decide_eq_true_eq, isEmpty, size, List.isEmpty_iff,
    List.length_eq_zero_iff]

variable [DecidableEq Account]

/-- An operation keeps the ledger beside the map. -/
theorem perform (h : l.Represents m) (op : Op Account bits) :
    (l.perform op).2.Represents (m.next op) := by
  intro id
  rw [get?_perform, RecordMap.lookup_next, h id]

/-- Any operations do. -/
theorem after (h : l.Represents m) (ops : List (Op Account bits)) :
    (l.after ops).Represents (m.after ops) := by
  induction ops generalizing l m with
  | nil => exact h
  | cons op ops ih => exact ih (h.perform op)

/-- An operation tells what the map has it tell. -/
theorem tells (h : l.Represents m) (op : Op Account bits) : m.Tells op (l.perform op).1 := by
  cases op with
  | put r => rfl
  | remove id =>
    show Reply.record (l.remove id).1 = .record (m.lookup id)
    rw [remove_eq, h]
  | get id =>
    show Reply.record (l.get? id) = .record (m.lookup id)
    rw [h]
  | size =>
    show Reply.number l.size = .number m.keys.card
    rw [h.size_eq]
  | isEmpty =>
    show Reply.truth l.isEmpty = .truth (decide (m.keys.card = 0))
    rw [h.isEmpty_eq]
  | query account status =>
    refine ⟨l.query account status, rfl, nodup_query l account status, fun r => ?_⟩
    rw [mem_query, h.mem_iff]

end Represents

/-! ### What was stored last -/

/-- Whether `r` was stored under `id`, and the id was not concerned again. -/
def Latest (ops : List (Op Account bits)) (id : String) (r : Record Account bits) : Prop :=
  ∃ before later, ops = before ++ .put r :: later ∧ r.id = id ∧ ∀ op ∈ later, op.id? ≠ some id

theorem latest_cons_iff {op : Op Account bits} {ops : List (Op Account bits)} :
    Latest (op :: ops) id r ↔
      Latest ops id r ∨ op = .put r ∧ r.id = id ∧ ∀ op' ∈ ops, op'.id? ≠ some id := by
  constructor
  · rintro ⟨before, later, hops, hid, hlater⟩
    cases before with
    | nil =>
      obtain ⟨rfl, rfl⟩ := List.cons.inj hops
      exact .inr ⟨rfl, hid, hlater⟩
    | cons op' before =>
      obtain ⟨-, rfl⟩ := List.cons.inj hops
      exact .inl ⟨before, later, rfl, hid, hlater⟩
  · rintro (⟨before, later, rfl, hid, hlater⟩ | ⟨rfl, hid, hlater⟩)
    · exact ⟨op :: before, later, rfl, hid, hlater⟩
    · exact ⟨[], ops, rfl, hid, hlater⟩

/-- An operation leaves a record under an id by storing it, or by not concerning the id. -/
theorem Op.left?_getD_eq_some_iff {op : Op Account bits} {found : Option (Record Account bits)} :
    (op.left? id).getD found = some r ↔
      op = .put r ∧ r.id = id ∨ op.id? ≠ some id ∧ found = some r := by
  cases hleft : op.left? id with
  | none =>
    have hid := Op.left?_eq_none_iff.1 hleft
    have hput : ¬ (op = .put r ∧ r.id = id) := by
      rintro ⟨rfl, rfl⟩
      exact hid rfl
    simp [hput, hid]
  | some left =>
    have hid : op.id? = some id := by
      by_contra hne
      rw [Op.left?_eq_none_iff.2 hne] at hleft
      cases hleft
    rw [← Op.left?_eq_some_iff, hleft]
    simp [hid]

variable [DecidableEq Account]

/-- A record is found under an id if it was stored last, or was there and stayed. -/
theorem get?_after_eq_some_iff {ops : List (Op Account bits)} :
    (l.after ops).get? id = some r ↔
      Latest ops id r ∨ l.get? id = some r ∧ ∀ op ∈ ops, op.id? ≠ some id := by
  induction ops generalizing l with
  | nil => simp [Latest]
  | cons op ops ih =>
    rw [after_cons, ih, get?_perform, Op.left?_getD_eq_some_iff, latest_cons_iff,
      List.forall_mem_cons]
    tauto

/-! ### The statuses of an account's records -/

/-- No record is in two statuses, or twice in one. -/
theorem nodup_statuses (l : Ledger Account bits) (account : Account) :
    (Status.all.flatMap (l.query account)).Nodup := by
  rw [List.nodup_flatMap]
  refine ⟨fun status _ => nodup_query l account status, ?_⟩
  have hall : Status.all.Nodup := by decide
  refine hall.imp fun {status status'} hne r hr hr' => hne ?_
  rw [← (mem_query.1 hr).2.2, (mem_query.1 hr').2.2]

/-- Every record of the account is in one. -/
theorem mem_statuses {account : Account} :
    r ∈ Status.all.flatMap (l.query account) ↔ l.get? r.id = some r ∧ r.account = account := by
  rw [List.mem_flatMap, get?_self_iff]
  constructor
  · rintro ⟨status, -, hr⟩
    obtain ⟨hr, haccount, -⟩ := mem_query.1 hr
    exact ⟨hr, haccount⟩
  · rintro ⟨hr, haccount⟩
    exact ⟨r.status, Status.mem_all r.status, mem_query.2 ⟨hr, haccount, rfl⟩⟩

/-! ### Everything together -/

/-- What can be found in a ledger that `ops` have led to, and what it tells next. -/
structure StoresLatest (ops : List (Op Account bits)) (l : Ledger Account bits) : Prop where
  /-- The same is found as in the finite map after the same operations. -/
  represents : ∀ id, l.get? id = (RecordMap.after ∅ ops).lookup id
  /-- Each entry stands under the id of its record. -/
  key_eq : ∀ id r, (RecordMap.after ∅ ops).lookup id = some r → r.id = id
  /-- What is found under an id was stored there last and was not removed since. -/
  get?_eq_some_iff : ∀ id r, l.get? id = some r ↔ Latest ops id r
  /-- The next operation, whichever it is, tells what the finite map has it tell. -/
  tells : ∀ op, (RecordMap.after ∅ ops).Tells op (l.perform op).1
  /-- A removal tells what was found, and takes it away and nothing else. -/
  remove : ∀ id, (l.remove id).1 = l.get? id ∧ (l.remove id).2.get? id = none ∧
    ∀ id', id' ≠ id → (l.remove id).2.get? id' = l.get? id'
  /-- A stored record is found in its present status and in no other, nor in another account. -/
  mem_query_put : ∀ r x account status, x.id = r.id →
    (x ∈ (l.put r).query account status ↔ x = r ∧ account = r.account ∧ status = r.status)
  /-- The queries for the statuses split the records of an account among them. -/
  partition : ∀ account, (Status.all.flatMap (l.query account)).Nodup ∧
    ∀ r, r ∈ Status.all.flatMap (l.query account) ↔ l.get? r.id = some r ∧ r.account = account

/-- **A ledger is a finite map.**  After any operations on an empty ledger, what is found under an
    id is what was stored there last, and every operation tells what it tells of the finite map that
    the same operations have led to. -/
theorem storesLatest_after (ops : List (Op Account bits)) :
    StoresLatest ops ((empty : Ledger Account bits).after ops) where
  represents := Represents.empty.after ops
  key_eq id r hr := by
    rw [← Represents.empty.after ops id] at hr
    exact (Ledger.get?_eq_some_iff.1 hr).2
  get?_eq_some_iff id r := by simp [get?_after_eq_some_iff]
  tells := (Represents.empty.after ops).tells
  remove id := by
    rw [remove_eq]
    refine ⟨rfl, by simp [get?_erase], fun id' hne => ?_⟩
    simp [get?_erase, Ne.symm hne]
  mem_query_put r x account status hid := by
    rw [mem_query, mem_put]
    constructor
    · rintro ⟨rfl | ⟨-, hne⟩, rfl, rfl⟩
      · exact ⟨rfl, rfl, rfl⟩
      · exact absurd hid hne
    · rintro ⟨rfl, rfl, rfl⟩
      exact ⟨.inl rfl, rfl, rfl⟩
  partition account := ⟨nodup_statuses _ account, fun _ => mem_statuses⟩

end Ledger

end NonceAllocation
