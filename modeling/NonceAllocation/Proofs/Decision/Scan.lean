import Mathlib.Tactic.Common
import NonceAllocation.Decision
import NonceAllocation.Proofs.Basic

namespace NonceAllocation

/-!
# Decisions — what the two scans find

The frontier of confirmed nonces and the run of submitted ones, each told without its loop, so that
nothing behind this module walks a list of records again:

* `mapM_requireNonce` — the nonces of all records, or the first record that has none;
* `IsFrontier`, `confirmedFrontier_eq_ok_iff` — one past the largest confirmed nonce, above a floor;
* `IsLeastFree`, `firstFree_eq_ok_iff` — the least nonce from a start on that is not held, which
  `firstFree_eq_error_iff` misses only if the held ones reach to the largest nonce of all;
* `nextNonce_eq_ok_iff` — both together: when a decision tells a nonce, and which.
-/

variable {Account : Type} {bits : Nat}

/-! ### Nonces are linearly ordered -/

instance : Std.IsLinearOrder (Unsigned bits) where
  le_refl a := Nat.le_refl a.val
  le_trans _ _ _ := Nat.le_trans
  le_antisymm _ _ hab hba := Unsigned.ext (Nat.le_antisymm hab hba)
  le_total a b := Nat.le_total a.val b.val

instance : Std.LawfulOrderMax (Unsigned bits) where
  max_eq_or a b := by
    show (if a ≤ b then b else a) = a ∨ (if a ≤ b then b else a) = b
    split <;> simp
  max_le_iff a b c := by
    rw [Unsigned.le_def, Unsigned.le_def, Unsigned.le_def, Unsigned.val_max]
    exact Nat.max_le

/-! ### Nonces of records -/

/-- The nonces that the records have, in their order. -/
def nonces (rs : List (Record Account bits)) : List (Nonce bits) := rs.filterMap Record.nonce

@[simp] theorem mem_nonces {rs : List (Record Account bits)} {n : Nonce bits} :
    n ∈ nonces rs ↔ ∃ r ∈ rs, r.nonce = some n :=
  List.mem_filterMap

/-- The first record without a nonce. -/
def firstUnnumbered (rs : List (Record Account bits)) : Option (Record Account bits) :=
  rs.find? fun r => r.nonce.isNone

theorem firstUnnumbered_eq_none_iff {rs : List (Record Account bits)} :
    firstUnnumbered rs = none ↔ ∀ r ∈ rs, r.nonce.isSome := by
  simp [firstUnnumbered, Option.isSome_iff_ne_none]

theorem mem_of_firstUnnumbered {rs : List (Record Account bits)} {r : Record Account bits}
    (h : firstUnnumbered rs = some r) : r ∈ rs ∧ r.nonce = none :=
  ⟨List.mem_of_find?_eq_some h, by simpa using List.find?_some h⟩

/-- A record without a nonce, if not all have one. -/
theorem exists_firstUnnumbered {rs : List (Record Account bits)}
    (h : ¬ ∀ r ∈ rs, r.nonce.isSome) :
    ∃ r ∈ rs, r.nonce = none ∧ firstUnnumbered rs = some r := by
  cases hfirst : firstUnnumbered rs with
  | none => exact absurd (firstUnnumbered_eq_none_iff.1 hfirst) h
  | some r =>
    obtain ⟨hmem, hnonce⟩ := mem_of_firstUnnumbered hfirst
    exact ⟨r, hmem, hnonce, rfl⟩

theorem firstUnnumbered_cons (r : Record Account bits) (rs : List (Record Account bits)) :
    firstUnnumbered (r :: rs) = if r.nonce.isNone then some r else firstUnnumbered rs := by
  rw [firstUnnumbered, List.find?_cons]
  cases r.nonce <;> rfl

/-- All records are looked at, and the first one without a nonce is the one that is named. -/
theorem mapM_requireNonce (rs : List (Record Account bits)) :
    rs.mapM Record.requireNonce =
      match firstUnnumbered rs with
      | some r => .error (.missingNonce r.id r.status)
      | none => .ok (nonces rs) := by
  induction rs with
  | nil => rfl
  | cons r rs ih =>
    rw [List.mapM_cons, ih, firstUnnumbered_cons, Record.requireNonce]
    cases hr : r.nonce with
    | none => rfl
    | some n =>
      -- A later record without a nonce still ends the reading.
      cases firstUnnumbered rs with
      | some s => rfl
      | none =>
        rw [show nonces (r :: rs) = n :: nonces rs from List.filterMap_cons_some hr]
        rfl

/-! ### The confirmed frontier -/

/-- One past the largest of the nonces, but no less than `floor`. -/
structure IsFrontier (held : List (Nonce bits)) (floor c : Nonce bits) : Prop where
  floor_le : floor ≤ c
  above : ∀ k ∈ held, k < c
  attained : c = floor ∨ ∃ k ∈ held, c.val = k.val + 1

namespace IsFrontier

variable {held : List (Nonce bits)} {floor c d : Nonce bits}

theorem val_le (hc : IsFrontier held floor c) (hd : IsFrontier held floor d) : c.val ≤ d.val := by
  rcases hc.attained with rfl | ⟨k, hk, hval⟩
  · exact hd.floor_le
  · have := Unsigned.lt_def.1 (hd.above k hk)
    omega

theorem unique (hc : IsFrontier held floor c) (hd : IsFrontier held floor d) : c = d :=
  Unsigned.ext (Nat.le_antisymm (hc.val_le hd) (hd.val_le hc))

theorem top_not_mem (h : IsFrontier held floor c) : .top ∉ held := by
  intro htop
  have hlt := Unsigned.lt_def.1 (h.above _ htop)
  have hle := Unsigned.le_def.1 (Unsigned.le_top c)
  omega

/-- A higher floor lifts the frontier no further than to itself. -/
theorem max_floor (h : IsFrontier held .zero c) (floor : Nonce bits) :
    IsFrontier held floor (max floor c) := by
  have hval := Unsigned.val_max floor c
  refine ⟨?_, fun k hk => ?_, ?_⟩
  · rw [Unsigned.le_def]
    omega
  · have := Unsigned.lt_def.1 (h.above k hk)
    rw [Unsigned.lt_def]
    omega
  · -- The higher of the two is the floor itself, or the frontier as it was.
    by_cases hle : c.val ≤ floor.val
    · exact .inl (Unsigned.ext (by omega))
    · rcases h.attained with rfl | ⟨k, hk, hk'⟩
      · simp at hle
      · exact .inr ⟨k, hk, by omega⟩

end IsFrontier

/-- The largest nonce has a successor, or it is the largest of all. -/
theorem exists_isFrontier_zero {held : List (Nonce bits)} (h : .top ∉ held) :
    ∃ c, IsFrontier held .zero c := by
  cases hmax : held.max? with
  | none =>
    rw [List.max?_eq_none_iff] at hmax
    subst hmax
    exact ⟨.zero, Nat.le_refl _, by simp, .inl rfl⟩
  | some largest =>
    obtain ⟨hmem, hle⟩ := List.max?_eq_some_iff.1 hmax
    cases hnext : largest.next? with
    | none => exact absurd (Unsigned.next?_eq_none_iff.1 hnext ▸ hmem) h
    | some c =>
      have hval : c.val = largest.val + 1 := Unsigned.next?_eq_some_iff.1 hnext
      refine ⟨c, Nat.zero_le _, fun k hk => ?_, .inr ⟨largest, hmem, hval⟩⟩
      have := Unsigned.le_def.1 (hle k hk)
      rw [Unsigned.lt_def]
      omega

theorem exists_isFrontier {held : List (Nonce bits)} (h : .top ∉ held) (floor : Nonce bits) :
    ∃ c, IsFrontier held floor c := by
  obtain ⟨c, hc⟩ := exists_isFrontier_zero h
  exact ⟨_, hc.max_floor floor⟩

/-- The frontier of numbered records is told by the largest of their nonces. -/
theorem confirmedFrontier_of_numbered {rs : List (Record Account bits)}
    (h : ∀ r ∈ rs, r.nonce.isSome) :
    confirmedFrontier rs =
      match (nonces rs).max? with
      | none => .ok .zero
      | some largest => successor largest := by
  rw [confirmedFrontier, mapM_requireNonce, firstUnnumbered_eq_none_iff.2 h]
  rfl

theorem confirmedFrontier_of_unnumbered {rs : List (Record Account bits)} {r : Record Account bits}
    (h : firstUnnumbered rs = some r) :
    confirmedFrontier rs = .error (.missingNonce r.id r.status) := by
  rw [confirmedFrontier, mapM_requireNonce, h]
  rfl

theorem confirmedFrontier_of_isFrontier {rs : List (Record Account bits)} {c : Nonce bits}
    (h : ∀ r ∈ rs, r.nonce.isSome) (hc : IsFrontier (nonces rs) .zero c) :
    confirmedFrontier rs = .ok c := by
  rw [confirmedFrontier_of_numbered h]
  cases hmax : (nonces rs).max? with
  | none =>
    rw [List.max?_eq_none_iff] at hmax
    have hzero : IsFrontier (nonces rs) .zero .zero := ⟨Nat.le_refl _, by simp [hmax], .inl rfl⟩
    rw [hc.unique hzero]
  | some largest =>
    obtain ⟨hmem, hle⟩ := List.max?_eq_some_iff.1 hmax
    have hval : c.val = largest.val + 1 := by
      have hlt := Unsigned.lt_def.1 (hc.above _ hmem)
      rcases hc.attained with rfl | ⟨k, hk, hval⟩
      · simp at hlt
      · have := Unsigned.le_def.1 (hle k hk)
        omega
    show successor largest = .ok c
    rw [successor, Unsigned.next?_eq_some_iff.2 hval]

theorem confirmedFrontier_of_top_mem {rs : List (Record Account bits)}
    (h : ∀ r ∈ rs, r.nonce.isSome) (htop : .top ∈ nonces rs) :
    confirmedFrontier rs = .error (.overflow .top) := by
  have hmax : (nonces rs).max? = some .top :=
    List.max?_eq_some_iff.2 ⟨htop, fun k _ => Unsigned.le_top k⟩
  rw [confirmedFrontier_of_numbered h, hmax]
  show successor .top = _
  rw [successor, Unsigned.next?_eq_none_iff.2 rfl]

/-- There is a frontier exactly when every record has a nonce and none has the largest one. -/
theorem confirmedFrontier_eq_ok_iff {rs : List (Record Account bits)} {c : Nonce bits} :
    confirmedFrontier rs = .ok c ↔
      (∀ r ∈ rs, r.nonce.isSome) ∧ IsFrontier (nonces rs) .zero c := by
  constructor
  · intro hok
    cases hfirst : firstUnnumbered rs with
    | some r =>
      rw [confirmedFrontier_of_unnumbered hfirst] at hok
      cases hok
    | none =>
      have h := firstUnnumbered_eq_none_iff.1 hfirst
      by_cases htop : .top ∈ nonces rs
      · rw [confirmedFrontier_of_top_mem h htop] at hok
        cases hok
      · obtain ⟨d, hd⟩ := exists_isFrontier_zero htop
        rw [confirmedFrontier_of_isFrontier h hd] at hok
        cases hok
        exact ⟨h, hd⟩
  · rintro ⟨h, hc⟩
    exact confirmedFrontier_of_isFrontier h hc

/-! ### The run of submitted nonces -/

/-- The least nonce from `start` on that is not held. -/
structure IsLeastFree (held : List (Nonce bits)) (start n : Nonce bits) : Prop where
  start_le : start ≤ n
  free : n ∉ held
  run : ∀ k, start ≤ k → k < n → k ∈ held

theorem IsLeastFree.unique {held : List (Nonce bits)} {start n m : Nonce bits}
    (hn : IsLeastFree held start n) (hm : IsLeastFree held start m) : n = m := by
  rcases Nat.lt_trichotomy n.val m.val with hlt | heq | hgt
  · exact absurd (hm.run n hn.start_le hlt) hn.free
  · exact Unsigned.ext heq
  · exact absurd (hn.run m hm.start_le hgt) hm.free

/-- Whatever holds from the successor of `n` on, and of `n`, holds from `n` on. -/
private theorem forall_ge_of_next {p : Nonce bits → Prop} {n m : Nonce bits}
    (hm : n.next? = some m) (hn : p n) (h : ∀ k, m ≤ k → p k) : ∀ k, n ≤ k → p k := by
  intro k hk
  have hval : m.val = n.val + 1 := Unsigned.next?_eq_some_iff.1 hm
  by_cases heq : k = n
  · rw [heq]
    exact hn
  · have hne : k.val ≠ n.val := fun h => heq (Unsigned.ext h)
    apply h
    rw [Unsigned.le_def] at hk ⊢
    omega

/-- The scan stops at the least free nonce; there is none only if the held nonces reach from the
    start to the largest nonce of all. -/
theorem firstFree_spec (held : List (Nonce bits)) (start : Nonce bits) :
    (∃ n, firstFree held start = .ok n ∧ IsLeastFree held start n) ∨
      firstFree held start = .error (.overflow .top) ∧ ∀ k, start ≤ k → k ∈ held := by
  fun_induction firstFree held start with
  | case1 n hn m hm ih =>
    -- `n` is held, and the scan goes on from its successor.
    rcases ih with ⟨k, hk, hfree⟩ | ⟨herr, hall⟩
    · refine .inl ⟨k, hk, ?_, hfree.free, ?_⟩
      · have hval : m.val = n.val + 1 := Unsigned.next?_eq_some_iff.1 hm
        have := Unsigned.le_def.1 hfree.start_le
        rw [Unsigned.le_def]
        omega
      · exact forall_ge_of_next hm (fun _ => hn) hfree.run
    · exact .inr ⟨herr, forall_ge_of_next hm hn hall⟩
  | case2 n hn hm =>
    -- The largest nonce itself is held, and nothing lies beyond it.
    have htop : n = .top := Unsigned.next?_eq_none_iff.1 hm
    subst htop
    refine .inr ⟨rfl, fun k hk => ?_⟩
    have hle := Unsigned.le_def.1 (Unsigned.le_top k)
    rw [show k = .top from Unsigned.ext (Nat.le_antisymm hle hk)]
    exact hn
  | case3 n hn =>
    refine .inl ⟨n, rfl, Nat.le_refl _, hn, fun k hk hlt => ?_⟩
    rw [Unsigned.le_def] at hk
    rw [Unsigned.lt_def] at hlt
    omega

theorem firstFree_eq_ok_iff {held : List (Nonce bits)} {start n : Nonce bits} :
    firstFree held start = .ok n ↔ IsLeastFree held start n := by
  rcases firstFree_spec held start with ⟨m, hm, hfree⟩ | ⟨herr, hall⟩
  · rw [hm]
    constructor
    · rintro ⟨⟩
      exact hfree
    · intro hn
      rw [hn.unique hfree]
  · rw [herr]
    constructor
    · rintro ⟨⟩
    · intro hn
      exact absurd (hall n hn.start_le) hn.free

theorem firstFree_eq_error_iff {held : List (Nonce bits)} {start : Nonce bits}
    {e : Inconsistency bits} :
    firstFree held start = .error e ↔ e = .overflow .top ∧ ∀ k, start ≤ k → k ∈ held := by
  rcases firstFree_spec held start with ⟨m, hm, hfree⟩ | ⟨herr, hall⟩
  · rw [hm]
    constructor
    · rintro ⟨⟩
    · rintro ⟨-, hall⟩
      exact absurd (hall m hfree.start_le) hfree.free
  · rw [herr]
    constructor
    · rintro ⟨⟩
      exact ⟨rfl, hall⟩
    · rintro ⟨rfl, -⟩
      rfl

/-- Nothing is free from `c` on, or there is a least free nonce. -/
theorem exists_isLeastFree {held : List (Nonce bits)} {c n : Nonce bits} (hle : c ≤ n)
    (hfree : n ∉ held) : ∃ k, IsLeastFree held c k := by
  rcases firstFree_spec held c with ⟨k, -, hk⟩ | ⟨-, hall⟩
  · exact ⟨k, hk⟩
  · exact absurd (hall n hle) hfree

theorem pendingRun_of_numbered {rs : List (Record Account bits)} {start : Nonce bits}
    (h : ∀ r ∈ rs, r.nonce.isSome) : pendingRun rs start = firstFree (nonces rs) start := by
  rw [pendingRun, mapM_requireNonce, firstUnnumbered_eq_none_iff.2 h]
  rfl

theorem pendingRun_of_unnumbered {rs : List (Record Account bits)} {r : Record Account bits}
    {start : Nonce bits} (h : firstUnnumbered rs = some r) :
    pendingRun rs start = .error (.missingNonce r.id r.status) := by
  rw [pendingRun, mapM_requireNonce, h]
  rfl

/-- The run ends exactly when every record has a nonce and some nonce from the start on is free. -/
theorem pendingRun_eq_ok_iff {rs : List (Record Account bits)} {start n : Nonce bits} :
    pendingRun rs start = .ok n ↔
      (∀ r ∈ rs, r.nonce.isSome) ∧ IsLeastFree (nonces rs) start n := by
  constructor
  · intro hok
    cases hfirst : firstUnnumbered rs with
    | some r =>
      rw [pendingRun_of_unnumbered hfirst] at hok
      cases hok
    | none =>
      have h := firstUnnumbered_eq_none_iff.1 hfirst
      rw [pendingRun_of_numbered h] at hok
      exact ⟨h, firstFree_eq_ok_iff.1 hok⟩
  · rintro ⟨h, hn⟩
    rw [pendingRun_of_numbered h]
    exact firstFree_eq_ok_iff.2 hn

/-! ### The decision -/

theorem nextNonce_of_confirmedFrontier_ok {count frontier : Nonce bits}
    {confirmed submitted : List (Record Account bits)}
    (h : confirmedFrontier confirmed = .ok frontier) :
    nextNonce (.ok count) confirmed submitted
      = (pendingRun submitted (max count frontier)).mapError NonceError.inconsistent := by
  rw [nextNonce, h]
  rfl

/-- With a candidate the decision is the scan of the submitted records from there on. -/
theorem nextNonce_of_isFrontier {confirmed submitted : List (Record Account bits)}
    {count c : Nonce bits} (h : ∀ r ∈ confirmed, r.nonce.isSome)
    (hc : IsFrontier (nonces confirmed) count c) :
    nextNonce (.ok count) confirmed submitted
      = (pendingRun submitted c).mapError NonceError.inconsistent := by
  obtain ⟨frontier, hf⟩ := exists_isFrontier_zero hc.top_not_mem
  rw [nextNonce_of_confirmedFrontier_ok (confirmedFrontier_of_isFrontier h hf),
    hc.unique (hf.max_floor count)]

theorem nextNonce_of_confirmedFrontier_error {count : Nonce bits}
    {confirmed submitted : List (Record Account bits)} {e : Inconsistency bits}
    (h : confirmedFrontier confirmed = .error e) :
    nextNonce (.ok count) confirmed submitted = .error (.inconsistent e) := by
  rw [nextNonce, h]
  rfl

/-- **When a decision tells a nonce, and which.**  The node has answered, all records have nonces,
    and the nonce is the least one from the candidate on that is not held by a submitted record. -/
theorem nextNonce_eq_ok_iff {answer : Except SourceError (Nonce bits)}
    {confirmed submitted : List (Record Account bits)} {n : Nonce bits} :
    nextNonce answer confirmed submitted = .ok n ↔
      ∃ count c, answer = .ok count ∧ (∀ r ∈ confirmed, r.nonce.isSome) ∧
        (∀ r ∈ submitted, r.nonce.isSome) ∧ IsFrontier (nonces confirmed) count c ∧
        IsLeastFree (nonces submitted) c n := by
  constructor
  · intro hok
    -- The node's count, the frontier of the confirmed records, the run of the submitted ones.
    obtain ⟨count, hcount, hok⟩ := bind_eq_ok_iff.1 hok
    obtain ⟨frontier, hf, hrun⟩ := bind_eq_ok_iff.1 hok
    obtain ⟨hnum, hfrontier⟩ := confirmedFrontier_eq_ok_iff.1 (mapError_eq_ok_iff.1 hf)
    obtain ⟨hnum', hfree⟩ := pendingRun_eq_ok_iff.1 (mapError_eq_ok_iff.1 hrun)
    exact ⟨count, _, mapError_eq_ok_iff.1 hcount, hnum, hnum', hfrontier.max_floor count, hfree⟩
  · rintro ⟨count, c, rfl, hnum, hnum', hc, hfree⟩
    rw [nextNonce_of_isFrontier hnum hc, pendingRun_eq_ok_iff.2 ⟨hnum', hfree⟩]
    rfl

end NonceAllocation
