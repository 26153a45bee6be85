import NonceAllocation.Proofs.Decision.Order

namespace NonceAllocation

/-!
# Decisions — the frontier of confirmed nonces

The scan of the confirmed records, for every list of them:

* `raise`, `pastHighest`, `confirmedFrontier_eq_foldlM` — one pass that keeps the largest nonce so
  far finds the same, and steps past it only when all records are read;
* `IsFrontier.exists_largest` — the frontier lies one past a nonce that is the largest;
* `IsFrontier.append`, `confirmedFrontier_append_eq_ok_iff` — the frontier of two lists together;
* `PastLargest`, `pastLargest_confirmedFrontier` — all that the scan comes to.
-/

variable {Account : Type} {bits : Nat}

/-! ### One pass -/

/-- The largest nonce so far, after one record more. -/
def raise (highest : Option (Nonce bits)) (r : Record Account bits) :
    Except (Inconsistency bits) (Option (Nonce bits)) := do
  let n ← r.requireNonce
  .ok (some (highest.elim n fun h => max h n))

/-- The nonce past the largest one, if there has been any. -/
def pastHighest : Option (Nonce bits) → Except (Inconsistency bits) (Nonce bits)
  | none => .ok .zero
  | some largest => successor largest

/-- Records are passed over until one has no nonce; what is kept is the largest nonce of those seen
    before and of these. -/
theorem foldlM_raise (rs : List (Record Account bits)) (highest : Option (Nonce bits)) :
    rs.foldlM raise highest =
      match firstUnnumbered rs with
      | some r => .error (.missingNonce r.id r.status)
      | none => .ok (highest.toList ++ nonces rs).max? := by
  induction rs generalizing highest with
  | nil =>
    cases highest with
    | none => rfl
    | some h => rfl
  | cons r rs ih =>
    rw [List.foldlM_cons, firstUnnumbered_cons, raise, Record.requireNonce]
    cases hr : r.nonce with
    | none => rfl
    | some n =>
      show rs.foldlM raise (some (highest.elim n fun h => max h n)) = _
      rw [ih, show nonces (r :: rs) = n :: nonces rs from List.filterMap_cons_some hr]
      -- The record's own nonce is taken into the largest one so far.
      cases highest with
      | none => rfl
      | some h => rfl

/-- The frontier by one pass: the step past the largest nonce is taken at its end, so that a record
    without a nonce is named even beside the largest nonce of all. -/
theorem confirmedFrontier_eq_foldlM (rs : List (Record Account bits)) :
    confirmedFrontier rs = rs.foldlM raise none >>= pastHighest := by
  rw [confirmedFrontier, mapM_requireNonce, foldlM_raise]
  cases firstUnnumbered rs with
  | some r => rfl
  | none => rfl

/-! ### The largest nonce -/

section

variable {held held' : List (Nonce bits)} {floor c d e : Nonce bits}

/-- With any nonce among them, the frontier is one past the largest. -/
theorem IsFrontier.exists_largest (h : IsFrontier held .zero c) (hne : held ≠ []) :
    ∃ largest ∈ held, (∀ k ∈ held, k ≤ largest) ∧ c.val = largest.val + 1 := by
  obtain ⟨n, hn⟩ := List.exists_mem_of_ne_nil held hne
  have hlt := h.above n hn
  rcases h.attained with rfl | ⟨largest, hmem, hval⟩
  · simp [Unsigned.lt_def] at hlt
  · refine ⟨largest, hmem, fun k hk => ?_, hval⟩
    have := Unsigned.lt_def.1 (h.above k hk)
    rw [Unsigned.le_def]
    omega

/-! ### Two lists -/

/-- The frontier of all nonces is the higher one of the two. -/
theorem IsFrontier.append (hc : IsFrontier held floor c) (hd : IsFrontier held' floor d) :
    IsFrontier (held ++ held') floor (max c d) := by
  have hval := Unsigned.val_max c d
  refine ⟨?_, fun k hk => ?_, ?_⟩
  · have := Unsigned.le_def.1 hc.floor_le
    rw [Unsigned.le_def]
    omega
  · rw [Unsigned.lt_def]
    rcases List.mem_append.1 hk with hk | hk
    · have := Unsigned.lt_def.1 (hc.above k hk)
      omega
    · have := Unsigned.lt_def.1 (hd.above k hk)
      omega
  · -- The higher frontier is the floor, or lies one past a nonce of its own list.
    rcases Std.MaxEqOr.max_eq_or c d with heq | heq
    · rw [heq]
      refine hc.attained.imp_right ?_
      rintro ⟨k, hk, hk'⟩
      exact ⟨k, List.mem_append_left held' hk, hk'⟩
    · rw [heq]
      refine hd.attained.imp_right ?_
      rintro ⟨k, hk, hk'⟩
      exact ⟨k, List.mem_append_right held hk, hk'⟩

theorem isFrontier_append_iff : IsFrontier (held ++ held') .zero e ↔
    ∃ c d, IsFrontier held .zero c ∧ IsFrontier held' .zero d ∧ e = max c d := by
  constructor
  · intro he
    have htop := he.top_not_mem
    rw [List.mem_append, not_or] at htop
    obtain ⟨c, hc⟩ := exists_isFrontier_zero htop.1
    obtain ⟨d, hd⟩ := exists_isFrontier_zero htop.2
    exact ⟨c, d, hc, hd, he.unique (hc.append hd)⟩
  · rintro ⟨c, d, hc, hd, rfl⟩
    exact hc.append hd

end

/-- Two lists together have a frontier if each of them has one, and it is the higher one. -/
theorem confirmedFrontier_append_eq_ok_iff {xs ys : List (Record Account bits)} {e : Nonce bits} :
    confirmedFrontier (xs ++ ys) = .ok e ↔
      ∃ c d, confirmedFrontier xs = .ok c ∧ confirmedFrontier ys = .ok d ∧ e = max c d := by
  have hnonces : nonces (xs ++ ys) = nonces xs ++ nonces ys := List.filterMap_append
  simp only [confirmedFrontier_eq_ok_iff, List.forall_mem_append, hnonces, isFrontier_append_iff]
  constructor
  · rintro ⟨⟨hx, hy⟩, c, d, hc, hd, he⟩
    exact ⟨c, d, ⟨hx, hc⟩, ⟨hy, hd⟩, he⟩
  · rintro ⟨c, d, ⟨hx, hc⟩, ⟨hy, hd⟩, he⟩
    exact ⟨⟨hx, hy⟩, c, d, hc, hd, he⟩

/-! ### Everything together -/

/-- What the scan of confirmed records comes to: one past their largest nonce, or what is wrong. -/
structure PastLargest (rs : List (Record Account bits))
    (result : Except (Inconsistency bits) (Nonce bits)) : Prop where
  /-- The first record without a nonce is named, whatever nonces the others have. -/
  of_unnumbered : ∀ r, firstUnnumbered rs = some r → result = .error (.missingNonce r.id r.status)
  of_nil : rs = [] → result = .ok .zero
  /-- Nothing lies past the largest nonce of all. -/
  of_top_mem : (∀ r ∈ rs, r.nonce.isSome) → .top ∈ nonces rs → result = .error (.overflow .top)
  of_top_not_mem : (∀ r ∈ rs, r.nonce.isSome) → rs ≠ [] → .top ∉ nonces rs →
    ∃ largest ∈ nonces rs, (∀ k ∈ nonces rs, k ≤ largest) ∧
      ∃ c, result = .ok c ∧ c.val = largest.val + 1
  /-- No confirmed nonce is told again. -/
  above : ∀ c, result = .ok c → ∀ k ∈ nonces rs, k < c
  /-- The largest nonce so far is enough to keep, and is looked at when all records are read. -/
  onePass : result = rs.foldlM raise none >>= pastHighest
  /-- Neither the order of the records nor how often a nonce occurs among them matters. -/
  congr : (∀ r ∈ rs, r.nonce.isSome) → ∀ rs' : List (Record Account bits),
    (∀ r ∈ rs', r.nonce.isSome) → (∀ n, n ∈ nonces rs' ↔ n ∈ nonces rs) →
    confirmedFrontier rs' = result
  /-- Two lists together come to the higher one of the two frontiers. -/
  append : ∀ ys e, confirmedFrontier (rs ++ ys) = .ok e ↔
    ∃ c d, result = .ok c ∧ confirmedFrontier ys = .ok d ∧ e = max c d

/-- **One past the largest, or a loud failure.**  For every list of records the scan names the first
    one without a nonce; failing that, it tells zero of no records, an overflow if the largest nonce
    of all occurs, and one past the largest nonce otherwise. -/
theorem pastLargest_confirmedFrontier (rs : List (Record Account bits)) :
    PastLargest rs (confirmedFrontier rs) where
  of_unnumbered r hr := confirmedFrontier_of_unnumbered hr
  of_nil := by
    rintro rfl
    rfl
  of_top_mem := confirmedFrontier_of_top_mem
  of_top_not_mem hnum hne htop := by
    have hnonces : nonces rs ≠ [] := by
      obtain ⟨r, hr⟩ := List.exists_mem_of_ne_nil rs hne
      obtain ⟨n, hn⟩ := Option.isSome_iff_exists.1 (hnum r hr)
      exact List.ne_nil_of_mem (mem_nonces.2 ⟨r, hr, hn⟩)
    obtain ⟨c, hc⟩ := exists_isFrontier_zero htop
    obtain ⟨largest, hmem, hle, hval⟩ := hc.exists_largest hnonces
    exact ⟨largest, hmem, hle, c, confirmedFrontier_of_isFrontier hnum hc, hval⟩
  above c hok := (confirmedFrontier_eq_ok_iff.1 hok).2.above
  onePass := confirmedFrontier_eq_foldlM rs
  congr hnum rs' hnum' hmem := confirmedFrontier_congr hnum' hnum hmem
  append ys e := confirmedFrontier_append_eq_ok_iff

end NonceAllocation
