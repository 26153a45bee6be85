import NonceAllocation.Proofs.Decision.Scan

namespace NonceAllocation

/-!
# Decisions — the order in which records are read

Neither scan depends on the order of the records, nor on how often a nonce occurs, as long as all
records have nonces:

* `IsFrontier.congr`, `IsLeastFree.congr` — what the scans find is told by the set of nonces, and
  the run's end by those that `IsLeastFree.of_within` looks at;
* `confirmedFrontier_congr`, `pendingRun_congr` — so the scans themselves are, failures included;
* `nextNonce_eq_ok_congr` — and a decision that tells a nonce.
-/

variable {Account : Type} {bits : Nat}

/-! ### What the scans find -/

section

variable {held held' : List (Nonce bits)} {c n start floor : Nonce bits}

theorem IsFrontier.congr (h : IsFrontier held floor c) (hmem : ∀ k, k ∈ held ↔ k ∈ held') :
    IsFrontier held' floor c where
  floor_le := h.floor_le
  above k hk := h.above k ((hmem k).2 hk)
  attained := by
    rcases h.attained with hc | ⟨k, hk, hval⟩
    · exact .inl hc
    · exact .inr ⟨k, (hmem k).1 hk, hval⟩

/-- Only what is held from the start to the end tells the end. -/
theorem IsLeastFree.of_within (h : IsLeastFree held start n)
    (hmem : ∀ k, start ≤ k → k ≤ n → (k ∈ held ↔ k ∈ held')) : IsLeastFree held' start n where
  start_le := h.start_le
  free hn := h.free ((hmem n h.start_le (Nat.le_refl _)).2 hn)
  run k hk hlt := (hmem k hk (Nat.le_of_lt hlt)).1 (h.run k hk hlt)

theorem IsLeastFree.congr (h : IsLeastFree held start n) (hmem : ∀ k, k ∈ held ↔ k ∈ held') :
    IsLeastFree held' start n :=
  h.of_within fun k _ _ => hmem k

theorem firstFree_congr (hmem : ∀ k, k ∈ held ↔ k ∈ held') (start : Nonce bits) :
    firstFree held start = firstFree held' start := by
  rcases firstFree_spec held start with ⟨n, hn, hfree⟩ | ⟨herr, hall⟩
  · rw [hn, firstFree_eq_ok_iff.2 (hfree.congr hmem)]
  · have hall' : ∀ k, start ≤ k → k ∈ held' := fun k hk => (hmem k).1 (hall k hk)
    rw [herr, firstFree_eq_error_iff.2 ⟨rfl, hall'⟩]

end

/-! ### The scans -/

section

variable {rs rs' : List (Record Account bits)}

theorem mem_nonces_congr (h : ∀ r, r ∈ rs ↔ r ∈ rs') (n : Nonce bits) :
    n ∈ nonces rs ↔ n ∈ nonces rs' := by
  simp only [mem_nonces, h]

theorem confirmedFrontier_congr (h : ∀ r ∈ rs, r.nonce.isSome) (h' : ∀ r ∈ rs', r.nonce.isSome)
    (hmem : ∀ n, n ∈ nonces rs ↔ n ∈ nonces rs') :
    confirmedFrontier rs = confirmedFrontier rs' := by
  by_cases htop : .top ∈ nonces rs
  · rw [confirmedFrontier_of_top_mem h htop, confirmedFrontier_of_top_mem h' ((hmem _).1 htop)]
  · obtain ⟨c, hc⟩ := exists_isFrontier_zero htop
    rw [confirmedFrontier_of_isFrontier h hc, confirmedFrontier_of_isFrontier h' (hc.congr hmem)]

theorem pendingRun_congr (h : ∀ r ∈ rs, r.nonce.isSome) (h' : ∀ r ∈ rs', r.nonce.isSome)
    (hmem : ∀ n, n ∈ nonces rs ↔ n ∈ nonces rs') (start : Nonce bits) :
    pendingRun rs start = pendingRun rs' start := by
  rw [pendingRun_of_numbered h, pendingRun_of_numbered h', firstFree_congr hmem]

end

/-! ### The decision -/

/-- A decision that tells a nonce depends on the sets of confirmed and of submitted nonces only. -/
theorem nextNonce_eq_ok_congr {answer : Except SourceError (Nonce bits)}
    {confirmed confirmed' submitted submitted' : List (Record Account bits)} {n : Nonce bits}
    (hok : nextNonce answer confirmed submitted = .ok n)
    (hconfirmed : ∀ k, k ∈ nonces confirmed ↔ k ∈ nonces confirmed')
    (hsubmitted : ∀ k, k ∈ nonces submitted ↔ k ∈ nonces submitted')
    (hnum : ∀ r ∈ confirmed', r.nonce.isSome) (hnum' : ∀ r ∈ submitted', r.nonce.isSome) :
    nextNonce answer confirmed' submitted' = .ok n := by
  obtain ⟨count, c, hanswer, -, -, hc, hfree⟩ := nextNonce_eq_ok_iff.1 hok
  exact nextNonce_eq_ok_iff.2
    ⟨count, c, hanswer, hnum, hnum', hc.congr hconfirmed, hfree.congr hsubmitted⟩

end NonceAllocation
