import Mathlib.Data.List.Basic
import Mathlib.Tactic.Common
import NonceAllocation.Environment

namespace NonceAllocation

/-!
# References to the environment — which texts they are

* `Environment.References` — a text names a variable, with or without braces;
* `Environment.reference?_eq_some_iff` — `reference?` finds the variable that is named;
* `Environment.resolve_of_literal` — every other text stands for itself, in any environment.
-/

namespace Environment

/-- Whether the text is `$` and a name in braces, or `$` and a name of letters, digits and
    underscores.  No name is empty. -/
def References (s name : String) : Prop :=
  name ≠ "" ∧ (s = "$\x7b" ++ name ++ "\x7d" ∨
    s = "$" ++ name ∧ ∀ c ∈ name.toList, isNameChar c = true)

/-- Whether the text names a variable. -/
def IsReference (s : String) : Prop := ∃ name, References s name

theorem references_iff {s : String} {ns : List Char} :
    References s (String.ofList ns) ↔ ns ≠ [] ∧
      (s.toList = '$' :: '\x7b' :: (ns ++ ['\x7d']) ∨
        s.toList = '$' :: ns ∧ ∀ c ∈ ns, isNameChar c = true) := by
  have htext : ∀ t : String, s = t ↔ s.toList = t.toList := fun t => String.toList_inj.symm
  rw [References, htext, htext, Ne, ← String.toList_inj]
  simp

theorem isNameChar_brace : isNameChar '\x7b' = false := by decide +kernel

/-- Behind a brace the name goes on to the brace that ends the text. -/
theorem braced_iff {cs ns : List Char} :
    (if cs.getLast? = some '\x7d' ∧ 1 < cs.length then some (String.ofList cs.dropLast) else none)
        = some (String.ofList ns) ↔
      ns ≠ [] ∧ cs = ns ++ ['\x7d'] := by
  constructor
  · intro h
    split at h
    · rename_i hcs
      obtain ⟨hlast, hlength⟩ := hcs
      obtain ⟨front, rfl⟩ := List.getLast?_eq_some_iff.1 hlast
      rw [List.dropLast_concat, Option.some.injEq, String.ofList_inj] at h
      subst h
      refine ⟨?_, rfl⟩
      rintro rfl
      exact absurd hlength (by simp)
    · cases h
  · rintro ⟨hne, rfl⟩
    have hlength : 0 < ns.length := List.length_pos_iff.2 hne
    have hcs : (ns ++ ['\x7d']).getLast? = some '\x7d' ∧ 1 < (ns ++ ['\x7d']).length := by
      simp [hlength]
    rw [if_pos hcs, List.dropLast_concat]

/-- The variable that a text names is found, and in any other text none is. -/
theorem reference?_eq_some_iff {s name : String} :
    reference? s = some name ↔ References s name := by
  obtain ⟨ns, rfl⟩ : ∃ ns, name = String.ofList ns := ⟨name.toList, String.ofList_toList.symm⟩
  rw [references_iff, reference?]
  split
  · rename_i cs hs
    -- The brace that is there is no character of a name.
    have hplain : ¬ ('$' :: '\x7b' :: cs = '$' :: ns ∧ ∀ c ∈ ns, isNameChar c = true) := by
      rintro ⟨h, hall⟩
      have hbrace := hall '\x7b' ((List.cons.inj h).2 ▸ List.mem_cons_self)
      rw [isNameChar_brace] at hbrace
      cases hbrace
    rw [hs, or_iff_left hplain, braced_iff]
    simp
  · rename_i cs hbraced hs
    have hbrace : '$' :: cs ≠ '$' :: '\x7b' :: (ns ++ ['\x7d']) := by
      rintro h
      exact hbraced _ (List.cons.inj h).2
    rw [hs, or_iff_right hbrace]
    constructor
    · intro h
      split at h
      · rename_i hcs
        rw [Option.some.injEq, String.ofList_inj] at h
        subst h
        simpa using hcs
      · cases h
    · rintro ⟨hne, h, hall⟩
      cases h
      rw [if_pos]
      simpa using ⟨hne, hall⟩
  · rename_i hbraced hplain
    constructor
    · intro h
      cases h
    · rintro ⟨-, h | ⟨h, -⟩⟩
      · exact absurd h (hbraced _)
      · exact absurd h (hplain _)

theorem reference?_eq_none_iff {s : String} : reference? s = none ↔ ¬ IsReference s := by
  rw [Option.eq_none_iff_forall_ne_some]
  simp only [Ne, reference?_eq_some_iff, IsReference, not_exists]

instance (s : String) : Decidable (IsReference s) :=
  decidable_of_iff (reference? s ≠ none) (not_congr reference?_eq_none_iff |>.trans not_not)

/-- A text that names no variable stands for itself. -/
theorem resolve_of_literal (env : Environment) {s : String} (h : ¬ IsReference s) :
    env.resolve s = .ok s := by
  rw [resolve, reference?_eq_none_iff.2 h]

end Environment

end NonceAllocation
