import NonceAllocation.Text.Split

namespace NonceAllocation

/-!
# Chain identifiers

A chain is named as CAIP-2 names it: the family it belongs to, a colon, and its reference inside the
family, as in `eip155:1` and `fil:f`.

* `ChainId.text` — the identifier as text;
* `ChainId.read` — the split of a text at its first colon, both parts non-empty;
* `ChainId.read_eq_ok_iff` — which texts are read, and as what.
-/

/-- A chain family and a reference inside it. -/
@[ext] structure ChainId where
  family : String
  reference : String
deriving DecidableEq

/-- The text that is no chain identifier. -/
structure ChainIdFault where
  text : String
deriving DecidableEq

def ChainIdFault.message (e : ChainIdFault) : String := "Invalid chain id format " ++ e.text

namespace ChainId

def text (c : ChainId) : String := c.family ++ ":" ++ c.reference

/-- Splits a text at its first colon; both parts must be non-empty. -/
def read (s : String) : Except ChainIdFault ChainId :=
  match splitFirst ':' s.toList with
  | some (family, reference) =>
    if family.isEmpty ∨ reference.isEmpty then .error ⟨s⟩
    else .ok ⟨String.ofList family, String.ofList reference⟩
  | none => .error ⟨s⟩

/-- A text is read exactly when it is the text of the result, whose family holds no colon and whose
    parts are non-empty. -/
theorem read_eq_ok_iff {s : String} {c : ChainId} :
    read s = .ok c ↔
      s = c.text ∧ ':' ∉ c.family.toList ∧ c.family ≠ "" ∧ c.reference ≠ "" := by
  have htext : s = c.text ↔ s.toList = c.family.toList ++ ':' :: c.reference.toList := by
    rw [← String.toList_inj, text]
    simp
  have hempty : ∀ t : String, t ≠ "" ↔ t.toList ≠ [] := fun t => by simp
  rw [htext, hempty, hempty, read]
  split
  · rename_i family reference hsplit
    obtain ⟨hs, hn⟩ := splitFirst_eq_some_iff.1 hsplit
    split
    · rename_i hor
      simp only [reduceCtorEq, false_iff, not_and]
      intro h hc
      have := splitFirst_eq_some_iff.2 ⟨h, hc⟩
      rw [hsplit] at this
      simp only [Option.some.injEq, Prod.mk.injEq] at this
      rw [← this.1, ← this.2]
      simp only [List.isEmpty_iff] at hor
      intro hf
      simpa [hf] using hor
    · rename_i hor
      simp only [List.isEmpty_iff, not_or] at hor
      constructor
      · intro h
        cases h
        simpa [hs, hn] using hor
      · rintro ⟨h, hc, -⟩
        have := splitFirst_eq_some_iff.2 ⟨h, hc⟩
        rw [hsplit] at this
        simp only [Option.some.injEq, Prod.mk.injEq] at this
        rw [this.1, this.2]
        simp
  · rename_i hsplit
    simp only [reduceCtorEq, false_iff, not_and]
    intro h
    exact absurd (h ▸ by simp : ':' ∈ s.toList) (splitFirst_eq_none_iff.1 hsplit)

end ChainId

end NonceAllocation
