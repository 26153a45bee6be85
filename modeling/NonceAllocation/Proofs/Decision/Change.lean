import NonceAllocation.Proofs.Decision.Order

namespace NonceAllocation

/-!
# Decisions — one nonce more, one nonce less

What the two scans find when a nonce joins the confirmed ones, and when one may have gone from the
submitted ones:

* `IsFrontier.cons_of_lt`, `IsFrontier.cons_of_next` — the frontier with a further confirmed nonce;
* `IsFrontier.exists_cons` — it passes that nonce and nothing that lies beyond;
* `LosesAtMost` — held nonces of which all but maybe one are left;
* `IsLeastFree.of_losesAtMost` — the run still ends where it did if the lost nonce is no part of it;
* `IsLeastFree.reopened` — if it is, the run ends there.
-/

variable {bits : Nat} {held held' : List (Nonce bits)} {floor start c c' d k n : Nonce bits}

/-! ### The frontier -/

/-- A nonce below the frontier does not move it. -/
theorem IsFrontier.cons_of_lt (h : IsFrontier held floor c) (hk : k < c) :
    IsFrontier (k :: held) floor c where
  floor_le := h.floor_le
  above j hj := by
    rcases List.mem_cons.1 hj with rfl | hj
    · exact hk
    · exact h.above j hj
  attained := by
    rcases h.attained with hc | ⟨j, hj, hval⟩
    · exact .inl hc
    · exact .inr ⟨j, List.mem_cons_of_mem k hj, hval⟩

/-- Any other nonce moves it behind itself. -/
theorem IsFrontier.cons_of_next (h : IsFrontier held floor c) (hk : c ≤ k)
    (hd : k.next? = some d) : IsFrontier (k :: held) floor d := by
  have hval : d.val = k.val + 1 := Unsigned.next?_eq_some_iff.1 hd
  have hfloor : floor.val ≤ c.val := h.floor_le
  have hck : c.val ≤ k.val := hk
  refine ⟨?_, fun j hj => ?_, .inr ⟨k, List.mem_cons_self, hval⟩⟩
  · rw [Unsigned.le_def]
    omega
  · rw [Unsigned.lt_def]
    rcases List.mem_cons.1 hj with rfl | hj
    · omega
    · have := Unsigned.lt_def.1 (h.above j hj)
      omega

/-- If the frontier and the further nonce both lie before `n`, the frontier does not pass `n`. -/
theorem IsFrontier.exists_cons (h : IsFrontier held floor c) (hcn : c ≤ n) (hkn : k < n) :
    ∃ d, IsFrontier (k :: held) floor d ∧ c ≤ d ∧ d ≤ n ∧ k < d := by
  by_cases hkc : k < c
  · exact ⟨c, h.cons_of_lt hkc, Nat.le_refl _, hcn, hkc⟩
  · have hck : c.val ≤ k.val := Nat.le_of_not_lt hkc
    cases hd : k.next? with
    | none =>
      -- Nothing lies beyond the largest nonce.
      rw [Unsigned.next?_eq_none_iff.1 hd] at hkn
      exact absurd hkn (Nat.not_lt_of_le (Unsigned.le_top n))
    | some d =>
      have hval : d.val = k.val + 1 := Unsigned.next?_eq_some_iff.1 hd
      have hkn : k.val < n.val := hkn
      refine ⟨d, h.cons_of_next hck hd, ?_, ?_, ?_⟩
      · rw [Unsigned.le_def]
        omega
      · rw [Unsigned.le_def]
        omega
      · rw [Unsigned.lt_def]
        omega

/-! ### The run -/

/-- Whether all the held nonces, but maybe `k`, are left, and no other ones are. -/
structure LosesAtMost (k : Nonce bits) (held held' : List (Nonce bits)) : Prop where
  mem : ∀ n ∈ held', n ∈ held
  left : ∀ n ∈ held, n ≠ k → n ∈ held'

/-- The run ends where it did, also from a later start on, as long as it does not come to the place
    of a lost nonce. -/
theorem IsLeastFree.of_losesAtMost (h : IsLeastFree held c n) (hlost : LosesAtMost k held held')
    (hstart : c ≤ c') (hend : c' ≤ n) (hk : c' ≤ k → k < n → k ∈ held') :
    IsLeastFree held' c' n where
  start_le := hend
  free hn := h.free (hlost.mem n hn)
  run j hj hjn := by
    by_cases heq : j = k
    · subst heq
      exact hk hj hjn
    · exact hlost.left j (h.run j (Nat.le_trans hstart hj) hjn) heq

/-- A nonce lost inside the run is where it ends now. -/
theorem IsLeastFree.reopened (h : IsLeastFree held c n) (hlost : LosesAtMost k held held')
    (hck : c ≤ k) (hkn : k < n) (hk : k ∉ held') : IsLeastFree held' c k where
  start_le := hck
  free := hk
  run j hj hjk := by
    have hne : j ≠ k := by
      rintro rfl
      exact Nat.lt_irrefl _ hjk
    exact hlost.left j (h.run j hj (Nat.lt_trans hjk hkn)) hne

end NonceAllocation
