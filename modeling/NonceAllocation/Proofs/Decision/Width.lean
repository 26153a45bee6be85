import Mathlib.Order.Nat
import NonceAllocation.Proofs.Decision.Scan

namespace NonceAllocation

/-!
# Decisions — the same records at a larger width

Nonces of one width are nonces of any larger one.  The scans of the same records at two widths agree
as long as the smaller one holds the result, and the smaller one says so when it does not:

* `Unsigned.widen_inj`, `Unsigned.exists_widen` — the numbers of the smaller width among the others;
* `Unsigned.beyond` — the first number that the smaller width lacks;
* `Record.widen` — a record with its nonce at the larger width;
* `IsFrontier.widen`, `IsLeastFree.widen` — what the scans find is found at the larger width too,
  where `isFrontier_beyond` and `isLeastFree_beyond` tell what lies past the smaller one;
* `Widened`, `widened_confirmedFrontier`, `widened_pendingRun` — the results of either scan at both
  widths;
* `nextNonce_widen`, `nextNonce_of_widen` — the decisions at both widths;
* `ScansAgree`, `widths_agree` — all of it.
-/

/-! ### Numbers and records at two widths -/

namespace Unsigned

variable {bits wider : Nat}

theorem widen_inj {h : bits ≤ wider} {a b : Unsigned bits} : a.widen h = b.widen h ↔ a = b := by
  simp only [Unsigned.ext_iff, val_widen]

theorem exists_widen (h : bits ≤ wider) {a : Unsigned wider} (ha : a.val < 2 ^ bits) :
    ∃ b : Unsigned bits, a = b.widen h :=
  ⟨⟨a.val, ha⟩, Unsigned.ext rfl⟩

theorem widen_max (h : bits ≤ wider) (a b : Unsigned bits) :
    (max a b).widen h = max (a.widen h) (b.widen h) := by
  rw [Unsigned.ext_iff, val_widen, val_max, val_max, val_widen, val_widen]

/-- The first number of a larger width that the smaller one lacks. -/
def beyond (h : bits < wider) : Unsigned wider := ⟨2 ^ bits, Nat.pow_lt_pow_right Nat.one_lt_two h⟩

@[simp] theorem val_beyond (h : bits < wider) : (beyond h).val = 2 ^ bits := rfl

theorem widen_lt_beyond (h : bits < wider) (a : Unsigned bits) : a.widen h.le < beyond h := a.val_lt

end Unsigned

variable {Account : Type} {bits wider : Nat}

/-- The same record with its nonce at a larger width. -/
def Record.widen (h : bits ≤ wider) (r : Record Account bits) : Record Account wider where
  id := r.id
  account := r.account
  status := r.status
  nonce := r.nonce.map (Unsigned.widen h)
  created := r.created
  submitted := r.submitted
  confirmed := r.confirmed
  txHash := r.txHash

section

variable (h : bits ≤ wider) (rs : List (Record Account bits))

theorem nonces_widen : nonces (rs.map (Record.widen h)) = (nonces rs).map (Unsigned.widen h) := by
  rw [nonces, nonces, List.filterMap_map, List.map_filterMap]
  rfl

theorem firstUnnumbered_widen :
    firstUnnumbered (rs.map (Record.widen h)) = (firstUnnumbered rs).map (Record.widen h) := by
  have hsame : (fun r : Record Account wider => r.nonce.isNone) ∘ Record.widen h
      = fun r : Record Account bits => r.nonce.isNone := by
    funext r
    simp [Record.widen]
  rw [firstUnnumbered, List.find?_map, hsame]
  rfl

theorem numbered_widen (hnum : ∀ r ∈ rs, r.nonce.isSome) :
    ∀ r ∈ rs.map (Record.widen h), r.nonce.isSome := by
  rw [← firstUnnumbered_eq_none_iff, firstUnnumbered_widen, firstUnnumbered_eq_none_iff.2 hnum]
  rfl

end

/-! ### What the scans find -/

section

variable {held : List (Nonce bits)} {floor start c n : Nonce bits}

theorem IsFrontier.widen (h : bits ≤ wider) (hc : IsFrontier held floor c) :
    IsFrontier (held.map (Unsigned.widen h)) (floor.widen h) (c.widen h) where
  floor_le := hc.floor_le
  above := by
    rw [List.forall_mem_map]
    exact hc.above
  attained := by
    rcases hc.attained with rfl | ⟨k, hk, hval⟩
    · exact .inl rfl
    · exact .inr ⟨k.widen h, List.mem_map_of_mem hk, hval⟩

/-- With the largest nonce of the smaller width held, the frontier lies just past that width. -/
theorem isFrontier_beyond (h : bits < wider) (htop : .top ∈ held) :
    IsFrontier (held.map (Unsigned.widen h.le)) (floor.widen h.le) (.beyond h) where
  floor_le := Nat.le_of_lt floor.val_lt
  above := by
    rw [List.forall_mem_map]
    exact fun k _ => k.widen_lt_beyond h
  attained := by
    refine .inr ⟨Unsigned.top.widen h.le, List.mem_map_of_mem htop, ?_⟩
    rw [Unsigned.val_beyond, Unsigned.val_widen, Unsigned.val_top]
    have := Nat.two_pow_pos bits
    omega

theorem IsLeastFree.widen (h : bits ≤ wider) (hn : IsLeastFree held start n) :
    IsLeastFree (held.map (Unsigned.widen h)) (start.widen h) (n.widen h) where
  start_le := hn.start_le
  free := by
    rw [List.mem_map]
    rintro ⟨k, hk, heq⟩
    exact hn.free (Unsigned.widen_inj.1 heq ▸ hk)
  run k hk hkn := by
    -- Below a nonce of the smaller width there are no others.
    obtain ⟨j, rfl⟩ := Unsigned.exists_widen h (Nat.lt_trans hkn n.val_lt)
    exact List.mem_map_of_mem (hn.run j hk hkn)

theorem beyond_not_mem (h : bits < wider) (held : List (Nonce bits)) :
    .beyond h ∉ held.map (Unsigned.widen h.le) := by
  rw [List.mem_map]
  rintro ⟨k, -, heq⟩
  exact absurd (heq ▸ k.widen_lt_beyond h) (Nat.lt_irrefl _)

/-- With all nonces of the smaller width held from the start on, the run ends just past that
    width. -/
theorem isLeastFree_beyond (h : bits < wider) (hall : ∀ k, start ≤ k → k ∈ held) :
    IsLeastFree (held.map (Unsigned.widen h.le)) (start.widen h.le) (.beyond h) where
  start_le := Nat.le_of_lt start.val_lt
  free := beyond_not_mem h held
  run k hk hlt := by
    obtain ⟨j, rfl⟩ := Unsigned.exists_widen h.le hlt
    exact List.mem_map_of_mem (hall j hk)

end

/-! ### The scans -/

/-- The results of a scan at two widths: the same nonce, the same record without a nonce, or an
    overflow of the smaller width where the larger one tells the nonce that comes next. -/
inductive Widened (h : bits < wider) :
    Except (Inconsistency bits) (Nonce bits) → Except (Inconsistency wider) (Nonce wider) →
      Prop where
  | ok (n : Nonce bits) : Widened h (.ok n) (.ok (n.widen h.le))
  | missingNonce (id : String) (status : Status) :
      Widened h (.error (.missingNonce id status)) (.error (.missingNonce id status))
  | overflow : Widened h (.error (.overflow .top)) (.ok (.beyond h))

theorem widened_confirmedFrontier (h : bits < wider) (rs : List (Record Account bits)) :
    Widened h (confirmedFrontier rs) (confirmedFrontier (rs.map (Record.widen h.le))) := by
  have hfirst := firstUnnumbered_widen h.le rs
  cases hr : firstUnnumbered rs with
  | some r =>
    -- Either width comes to the same record first.
    rw [hr] at hfirst
    rw [confirmedFrontier_of_unnumbered hr, confirmedFrontier_of_unnumbered hfirst]
    exact .missingNonce r.id r.status
  | none =>
    have hnum := firstUnnumbered_eq_none_iff.1 hr
    have hnum' := numbered_widen h.le rs hnum
    have hnonces := nonces_widen h.le rs
    -- The one nonce that has no next one is the largest of the smaller width.
    by_cases htop : .top ∈ nonces rs
    · have hbeyond : IsFrontier (nonces (rs.map (Record.widen h.le))) (Unsigned.zero.widen h.le)
          (.beyond h) := by
        rw [hnonces]
        exact isFrontier_beyond h htop
      rw [confirmedFrontier_of_top_mem hnum htop, confirmedFrontier_of_isFrontier hnum' hbeyond]
      exact .overflow
    · obtain ⟨c, hc⟩ := exists_isFrontier_zero htop
      have hwide := hc.widen h.le
      rw [← hnonces] at hwide
      rw [confirmedFrontier_of_isFrontier hnum hc, confirmedFrontier_of_isFrontier hnum' hwide]
      exact .ok c

theorem widened_pendingRun (h : bits < wider) (rs : List (Record Account bits))
    (start : Nonce bits) :
    Widened h (pendingRun rs start)
      (pendingRun (rs.map (Record.widen h.le)) (start.widen h.le)) := by
  have hfirst := firstUnnumbered_widen h.le rs
  cases hr : firstUnnumbered rs with
  | some r =>
    rw [hr] at hfirst
    rw [pendingRun_of_unnumbered hr, pendingRun_of_unnumbered hfirst]
    exact .missingNonce r.id r.status
  | none =>
    have hnum := firstUnnumbered_eq_none_iff.1 hr
    rw [pendingRun_of_numbered hnum, pendingRun_of_numbered (numbered_widen h.le rs hnum),
      nonces_widen]
    -- The run stops inside the smaller width, or it takes up all that is left of it.
    rcases firstFree_spec (nonces rs) start with ⟨n, hn, hfree⟩ | ⟨herror, hall⟩
    · rw [hn, firstFree_eq_ok_iff.2 (hfree.widen h.le)]
      exact .ok n
    · rw [herror, firstFree_eq_ok_iff.2 (isLeastFree_beyond h hall)]
      exact .overflow

/-! ### The decision -/

section

variable {answer : Except SourceError (Nonce bits)}
  {confirmed submitted : List (Record Account bits)}

/-- A nonce that is told at the smaller width is told at the larger one. -/
theorem nextNonce_widen (h : bits ≤ wider) {n : Nonce bits}
    (hn : nextNonce answer confirmed submitted = .ok n) :
    nextNonce (answer.map (Unsigned.widen h)) (confirmed.map (Record.widen h))
      (submitted.map (Record.widen h)) = .ok (n.widen h) := by
  obtain ⟨count, c, rfl, hconfirmed, hsubmitted, hc, hfree⟩ := nextNonce_eq_ok_iff.1 hn
  refine nextNonce_eq_ok_iff.2 ⟨count.widen h, c.widen h, rfl, numbered_widen h _ hconfirmed,
    numbered_widen h _ hsubmitted, ?_, ?_⟩
  · rw [nonces_widen]
    exact hc.widen h
  · rw [nonces_widen]
    exact hfree.widen h

/-- A nonce that is told at the larger width is told at the smaller one, or it is the first one past
    the smaller width, where that one overflows. -/
theorem nextNonce_of_widen (h : bits < wider) {m : Nonce wider}
    (hm : nextNonce (answer.map (Unsigned.widen h.le)) (confirmed.map (Record.widen h.le))
      (submitted.map (Record.widen h.le)) = .ok m) :
    (∃ n, nextNonce answer confirmed submitted = .ok n ∧ m = n.widen h.le) ∨
    (nextNonce answer confirmed submitted = .error (.inconsistent (.overflow .top)) ∧
      m = .beyond h) := by
  cases answer with
  | error e => cases hm
  | ok count =>
    have hscan := widened_confirmedFrontier h confirmed
    generalize hnarrow : confirmedFrontier confirmed = narrow at hscan
    generalize hwide : confirmedFrontier (confirmed.map (Record.widen h.le)) = wide at hscan
    cases hscan with
    | missingNonce id status =>
      rw [Except.map, nextNonce_of_confirmedFrontier_error hwide] at hm
      cases hm
    | overflow =>
      -- The run starts past all nonces of the smaller width, and ends at once.
      refine .inr ⟨nextNonce_of_confirmedFrontier_error hnarrow, ?_⟩
      rw [Except.map, nextNonce_of_confirmedFrontier_ok hwide] at hm
      obtain ⟨-, hfree⟩ := pendingRun_eq_ok_iff.1 (mapError_eq_ok_iff.1 hm)
      have hmax : max (count.widen h.le) (.beyond h) = .beyond h := by
        rw [Unsigned.ext_iff, Unsigned.val_max]
        exact Nat.max_eq_right (Nat.le_of_lt count.val_lt)
      rw [hmax, nonces_widen] at hfree
      refine hfree.unique ⟨Nat.le_refl _, beyond_not_mem h (nonces submitted), fun k hk hlt => ?_⟩
      exact absurd hlt (Nat.not_lt_of_le hk)
    | ok c =>
      rw [Except.map, nextNonce_of_confirmedFrontier_ok hwide, ← Unsigned.widen_max] at hm
      rw [nextNonce_of_confirmedFrontier_ok hnarrow]
      have hscan := widened_pendingRun h submitted (max count c)
      generalize pendingRun submitted (max count c) = narrow at hscan ⊢
      generalize pendingRun (submitted.map (Record.widen h.le)) ((max count c).widen h.le) = wide
        at hscan hm
      cases hscan with
      | missingNonce id status => cases hm
      | overflow =>
        cases hm
        exact .inr ⟨rfl, rfl⟩
      | ok n =>
        cases hm
        exact .inl ⟨n, rfl, rfl⟩

end

/-! ### Both widths -/

/-- What one scan tells at two widths. -/
structure ScansAgree (h : bits < wider) (narrow : Except (Inconsistency bits) (Nonce bits))
    (wide : Except (Inconsistency wider) (Nonce wider)) : Prop where
  /-- A nonce of the smaller width is told at the larger one, unchanged. -/
  of_ok : ∀ n, narrow = .ok n → wide = .ok (n.widen h.le)
  /-- The same record without a nonce is named. -/
  of_missingNonce : ∀ id status, narrow = .error (.missingNonce id status) →
    wide = .error (.missingNonce id status)
  /-- An overflow is one after the largest nonce. -/
  top_of_overflow : ∀ n, narrow = .error (.overflow n) → n = .top
  /-- The smaller width overflows exactly when the larger one tells the first nonce past it. -/
  overflow_iff : (∃ n, narrow = .error (.overflow n)) ↔ wide = .ok (.beyond h)

theorem Widened.scansAgree {h : bits < wider} {narrow : Except (Inconsistency bits) (Nonce bits)}
    {wide : Except (Inconsistency wider) (Nonce wider)} (hw : Widened h narrow wide) :
    ScansAgree h narrow wide := by
  cases hw with
  | ok n =>
    refine ⟨?_, ?_, ?_, ?_⟩
    · rintro _ ⟨⟩
      rfl
    · rintro _ _ ⟨⟩
    · rintro _ ⟨⟩
    · constructor
      · rintro ⟨_, ⟨⟩⟩
      · intro heq
        have hlt := n.widen_lt_beyond h
        rw [Except.ok.inj heq] at hlt
        exact absurd hlt (Nat.lt_irrefl _)
  | missingNonce id status =>
    refine ⟨?_, ?_, ?_, ?_⟩
    · rintro _ ⟨⟩
    · rintro _ _ ⟨⟩
      rfl
    · rintro _ ⟨⟩
    · exact iff_of_false (by rintro ⟨_, ⟨⟩⟩) (by rintro ⟨⟩)
  | overflow =>
    refine ⟨?_, ?_, ?_, ?_⟩
    · rintro _ ⟨⟩
    · rintro _ _ ⟨⟩
    · rintro _ ⟨⟩
      rfl
    · exact iff_of_true ⟨.top, rfl⟩ rfl

/-- **Two widths agree.**  Either scan of the same records tells the same at both widths, but that
    the smaller one overflows where the larger one tells the first nonce past it.  So do decisions:
    none is cut off or comes round to zero. -/
theorem widths_agree (h : bits < wider) (rs : List (Record Account bits)) (start : Nonce bits)
    (answer : Except SourceError (Nonce bits)) (confirmed submitted : List (Record Account bits)) :
    ScansAgree h (confirmedFrontier rs) (confirmedFrontier (rs.map (Record.widen h.le))) ∧
    ScansAgree h (pendingRun rs start)
      (pendingRun (rs.map (Record.widen h.le)) (start.widen h.le)) ∧
    (∀ n, nextNonce answer confirmed submitted = .ok n →
      nextNonce (answer.map (Unsigned.widen h.le)) (confirmed.map (Record.widen h.le))
        (submitted.map (Record.widen h.le)) = .ok (n.widen h.le)) ∧
    ∀ m, nextNonce (answer.map (Unsigned.widen h.le)) (confirmed.map (Record.widen h.le))
        (submitted.map (Record.widen h.le)) = .ok m →
      (∃ n, nextNonce answer confirmed submitted = .ok n ∧ m = n.widen h.le) ∨
      (nextNonce answer confirmed submitted = .error (.inconsistent (.overflow .top)) ∧
        m = .beyond h) :=
  ⟨(widened_confirmedFrontier h rs).scansAgree, (widened_pendingRun h rs start).scansAgree,
    fun _ => nextNonce_widen h.le, fun _ => nextNonce_of_widen h⟩

/-- Two submitted records at the last two nonces of 64 bits, the larger one first. -/
def lastTwo : List (Record Nat 64) :=
  [((Record.new "a" 7 0).withNonce .top).withStatus .submitted 0,
    ((Record.new "b" 7 0).withNonce 18446744073709551614).withStatus .submitted 0]

/-- The run comes to the end of the smaller width, where the larger one goes on. -/
theorem widths_agree_lastTwo :
    ∃ h : 64 < 256, pendingRun lastTwo 18446744073709551614 = .error (.overflow .top) ∧
      pendingRun (lastTwo.map (Record.widen h.le)) 18446744073709551614
        = .ok 18446744073709551616 := by
  have h : 64 < 256 := by decide
  have hnarrow : pendingRun lastTwo 18446744073709551614 = .error (.overflow .top) := by
    decide +kernel
  obtain ⟨-, hrun, -⟩ := widths_agree h lastTwo 18446744073709551614 (.ok 0) [] []
  exact ⟨h, hnarrow, hrun.overflow_iff.1 ⟨.top, hnarrow⟩⟩

end NonceAllocation
