namespace NonceAllocation

/-!
# Splitting a text at separators

* `splitFirst` — the parts before and after the first occurrence of a character;
* `splitAll` — the parts between all characters that separate.
-/

/-- The parts before and after the first `sep`; `none` if there is no `sep`. -/
def splitFirst (sep : Char) : List Char → Option (List Char × List Char)
  | [] => none
  | c :: cs =>
    if c = sep then some ([], cs)
    else (splitFirst sep cs).map fun p => (c :: p.1, p.2)

/-- The parts are those around a separator, and the first holds none. -/
theorem splitFirst_eq_some_iff {sep : Char} {cs front back : List Char} :
    splitFirst sep cs = some (front, back) ↔ cs = front ++ sep :: back ∧ sep ∉ front := by
  induction cs generalizing front with
  | nil => simp [splitFirst]
  | cons c cs ih =>
    rw [splitFirst]
    split
    · rename_i h
      subst h
      constructor
      · intro h
        simp only [Option.some.injEq, Prod.mk.injEq] at h
        obtain ⟨rfl, rfl⟩ := h
        simp
      · rintro ⟨h, hn⟩
        cases front with
        | nil => simp at h; simp [h]
        | cons d front => simp at h hn; exact absurd h.1 hn.1
    · rename_i hc
      simp only [Option.map_eq_some_iff, Prod.mk.injEq, Prod.exists]
      constructor
      · rintro ⟨f, b, h, rfl, rfl⟩
        obtain ⟨rfl, hn⟩ := ih.1 h
        exact ⟨rfl, by simp only [List.mem_cons, not_or]; exact ⟨Ne.symm hc, hn⟩⟩
      · rintro ⟨h, hn⟩
        cases front with
        | nil => simp at h; exact absurd h.1 hc
        | cons d front =>
          simp only [List.cons_append, List.cons.injEq, List.mem_cons, not_or] at h hn
          obtain ⟨rfl, rfl⟩ := h
          exact ⟨front, back, ih.2 ⟨rfl, hn.2⟩, rfl, rfl⟩

/-- There are no parts exactly when there is no separator. -/
theorem splitFirst_eq_none_iff {sep : Char} {cs : List Char} :
    splitFirst sep cs = none ↔ sep ∉ cs := by
  induction cs with
  | nil => simp [splitFirst]
  | cons c cs ih =>
    rw [splitFirst]
    split
    · rename_i h; simp [h]
    · rename_i h; simp [ih, Ne.symm h]

/-- The parts between the characters that separate: one more than there are of these. -/
def splitAll (separates : Char → Bool) : List Char → List (List Char)
  | [] => [[]]
  | c :: cs =>
    if separates c then [] :: splitAll separates cs
    else
      match splitAll separates cs with
      | part :: parts => (c :: part) :: parts
      | [] => [[c]]

theorem splitAll_ne_nil (separates : Char → Bool) (cs : List Char) :
    splitAll separates cs ≠ [] := by
  cases cs with
  | nil => simp [splitAll]
  | cons c cs =>
    rw [splitAll]
    split
    · simp
    · split <;> simp

/-- With its separators between them the parts make the text again. -/
theorem intercalate_splitAll (sep : Char) (cs : List Char) :
    [sep].intercalate (splitAll (· == sep) cs) = cs := by
  induction cs with
  | nil => rfl
  | cons c cs ih =>
    have hne := splitAll_ne_nil (· == sep) cs
    cases hs : splitAll (· == sep) cs with
    | nil => exact absurd hs hne
    | cons part parts =>
      rw [hs] at ih
      rw [splitAll, hs]
      split
      · rename_i h
        simp only [beq_iff_eq] at h
        subst h
        simp only [List.intercalate_cons_cons, List.nil_append, List.singleton_append, ih]
      · cases parts <;> simp_all [List.intercalate]

end NonceAllocation
