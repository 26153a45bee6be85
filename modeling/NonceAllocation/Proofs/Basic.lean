import Mathlib.Data.List.Forall2
import NonceAllocation.Unsigned

namespace NonceAllocation

/-!
# Outcomes, lookups, lists side by side and numerals

A chain of steps that may fail is taken apart step by step, a lookup entry by entry.

* `bind_eq_ok_iff`, `bind_eq_error_iff` — both steps succeed, or one of them fails;
* `guard_eq_ok_iff`, `guard_eq_error_iff` — a step that is refused under a condition;
* `map_eq_ok_iff`, `map_eq_error_iff`, `mapError_eq_ok_iff`, `mapError_eq_error_iff` — neither
  changes whether there is a success;
* `elim_eq_ok_iff` — a lookup that must find something;
* `eq_ok_iff_of_cases`, `eq_error_iff_of_cases` — an outcome that is told by when it comes about;
* `lookup_cons_eq` — a lookup in a list of entries;
* `exists_forall₂_iff` — a list whose elements correspond to those of another;
* `pairwise_iff_of_forall₂` — what holds between the elements of two lists that correspond;
* numerals of `Unsigned`, which count modulo the width.
-/

variable {ε ε' α β : Type}

theorem bind_eq_ok_iff {x : Except ε α} {f : α → Except ε β} {b : β} :
    x >>= f = .ok b ↔ ∃ a, x = .ok a ∧ f a = .ok b := by
  cases x with
  | error e =>
    constructor
    · intro h
      cases h
    · rintro ⟨a, h, -⟩
      cases h
  | ok a =>
    constructor
    · intro h
      exact ⟨a, rfl, h⟩
    · rintro ⟨a', h, hf⟩
      cases h
      exact hf

theorem bind_eq_error_iff {x : Except ε α} {f : α → Except ε β} {e : ε} :
    x >>= f = .error e ↔ x = .error e ∨ ∃ a, x = .ok a ∧ f a = .error e := by
  cases x with
  | error e' =>
    constructor
    · intro h
      cases h
      exact .inl rfl
    · rintro (h | ⟨a, h, -⟩)
      · cases h
        rfl
      · cases h
  | ok a =>
    constructor
    · intro h
      exact .inr ⟨a, rfl, h⟩
    · rintro (h | ⟨a', h, hf⟩)
      · cases h
      · cases h
        exact hf

theorem guard_eq_ok_iff {p : Prop} [Decidable p] {e : ε} {f : α → Except ε β} {x : Except ε β}
    {b : β} : (if p then .error e >>= f else x) = .ok b ↔ ¬ p ∧ x = .ok b := by
  by_cases hp : p
  · rw [if_pos hp]
    constructor
    · intro h
      cases h
    · rintro ⟨hn, -⟩
      exact absurd hp hn
  · rw [if_neg hp]
    exact ⟨fun h => ⟨hp, h⟩, And.right⟩

theorem guard_eq_error_iff {p : Prop} [Decidable p] {e e' : ε} {f : α → Except ε β}
    {x : Except ε β} :
    (if p then .error e >>= f else x) = .error e' ↔ p ∧ e = e' ∨ ¬ p ∧ x = .error e' := by
  by_cases hp : p
  · rw [if_pos hp]
    constructor
    · intro h
      cases h
      exact .inl ⟨hp, rfl⟩
    · rintro (⟨-, rfl⟩ | ⟨hn, -⟩)
      · rfl
      · exact absurd hp hn
  · rw [if_neg hp]
    constructor
    · exact fun h => .inr ⟨hp, h⟩
    · rintro (⟨h, -⟩ | ⟨-, h⟩)
      · exact absurd h hp
      · exact h

theorem map_eq_ok_iff {x : Except ε α} {f : α → β} {b : β} :
    x.map f = .ok b ↔ ∃ a, x = .ok a ∧ f a = b := by
  cases x <;> simp [Except.map]

theorem map_eq_error_iff {x : Except ε α} {f : α → β} {e : ε} :
    x.map f = .error e ↔ x = .error e := by
  cases x <;> simp [Except.map]

theorem mapError_eq_ok_iff {x : Except ε α} {f : ε → ε'} {a : α} :
    x.mapError f = .ok a ↔ x = .ok a := by
  cases x <;> simp [Except.mapError]

theorem mapError_eq_error_iff {x : Except ε α} {f : ε → ε'} {e : ε'} :
    x.mapError f = .error e ↔ ∃ e', x = .error e' ∧ f e' = e := by
  cases x <;> simp [Except.mapError]

theorem elim_eq_ok_iff {x : Option α} {e : ε} {a : α} :
    x.elim (.error e) Except.ok = .ok a ↔ x = some a := by
  cases x <;> simp

section

variable {x : Except ε α} {p : α → Prop} {q : ε → Prop}

/-- An outcome is known if it is known in two cases of which one must be. -/
theorem eq_ok_iff_of_cases (hok : ∀ a, p a → x = .ok a) (herror : ∀ e, q e → x = .error e)
    (hcases : (∃ a, p a) ∨ ∃ e, q e) {a : α} : x = .ok a ↔ p a := by
  refine ⟨fun h => ?_, hok a⟩
  rcases hcases with ⟨a', ha'⟩ | ⟨e, he⟩
  · have heq := (hok a' ha').symm.trans h
    cases heq
    exact ha'
  · have heq := (herror e he).symm.trans h
    cases heq

@[inherit_doc eq_ok_iff_of_cases]
theorem eq_error_iff_of_cases (hok : ∀ a, p a → x = .ok a) (herror : ∀ e, q e → x = .error e)
    (hcases : (∃ a, p a) ∨ ∃ e, q e) {e : ε} : x = .error e ↔ q e := by
  refine ⟨fun h => ?_, herror e⟩
  rcases hcases with ⟨a, ha⟩ | ⟨e', he'⟩
  · have heq := (hok a ha).symm.trans h
    cases heq
  · have heq := (herror e' he').symm.trans h
    cases heq
    exact he'

end

theorem lookup_cons_eq [DecidableEq α] (k j : α) (b : β) (es : List (α × β)) :
    ((k, b) :: es).lookup j = if j = k then some b else es.lookup j := by
  rw [List.lookup_cons]
  by_cases hj : j = k
  · simp [hj]
  · simp [hj, beq_false_of_ne hj]

/-! ### Two lists, element by element -/

section

variable {R : α → β → Prop} {as : List α} {bs : List β}

/-- Elements can be chosen one by one. -/
theorem exists_forall₂_iff : (∃ bs, List.Forall₂ R as bs) ↔ ∀ a ∈ as, ∃ b, R a b := by
  induction as with
  | nil => simp
  | cons a as ih =>
    rw [List.forall_mem_cons, ← ih]
    constructor
    · rintro ⟨_, hall⟩
      obtain ⟨b, bs, hb, hbs, -⟩ := List.forall₂_cons_left_iff.1 hall
      exact ⟨⟨b, hb⟩, bs, hbs⟩
    · rintro ⟨⟨b, hb⟩, bs, hbs⟩
      exact ⟨b :: bs, .cons hb hbs⟩

theorem forall_mem_iff_of_forall₂ {p : α → Prop} {q : β → Prop} (h : List.Forall₂ R as bs)
    (hpq : ∀ a ∈ as, ∀ b, R a b → (p a ↔ q b)) : (∀ a ∈ as, p a) ↔ ∀ b ∈ bs, q b := by
  induction h with
  | nil => simp
  | @cons a b as bs hab _ ih =>
    rw [List.forall_mem_cons, List.forall_mem_cons, hpq a List.mem_cons_self b hab]
    rw [ih fun a' ha' => hpq a' (List.mem_cons_of_mem _ ha')]

theorem pairwise_iff_of_forall₂ {P : α → α → Prop} {Q : β → β → Prop} (h : List.Forall₂ R as bs)
    (has : as.Nodup) (hPQ : ∀ a a' b b', a ≠ a' → R a b → R a' b' → (P a a' ↔ Q b b')) :
    as.Pairwise P ↔ bs.Pairwise Q := by
  induction h with
  | nil => simp
  | @cons a b as bs hab hrest ih =>
    obtain ⟨ha, has⟩ := List.nodup_cons.1 has
    rw [List.pairwise_cons, List.pairwise_cons, ih has]
    refine and_congr_left' (forall_mem_iff_of_forall₂ hrest ?_)
    intro a' ha' b' hab'
    exact hPQ a a' b b' (fun heq => ha (heq ▸ ha')) hab hab'

end

/-! ### Numerals -/

namespace Unsigned

variable {bits : Nat}

instance (n : Nat) : OfNat (Unsigned bits) n :=
  ⟨⟨n % 2 ^ bits, Nat.mod_lt n (Nat.two_pow_pos bits)⟩⟩

end Unsigned

end NonceAllocation
