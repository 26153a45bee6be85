import NonceAllocation.Json.Decode
import NonceAllocation.Proofs.Basic

namespace NonceAllocation

/-!
# Decoders — what a success means

* `Members.induction` — the members of an object, one by one;
* `Members.value?`, `Members.Takes` — the value of the first member of a name, and a walk that takes
  a field from it;
* `Members.entries?`, `Members.collect_of_entries` — the members of an object that is well formed,
  and the walk along them;
* `Items.required_eq_ok` — an item that must be there;
* `Decoder.once_eq_ok_iff`, `Decoder.needed_eq_ok_iff`, `Decoder.ignored_eq_ok_iff` — a member that
  is taken, one that must be there, one that is not asked for;
* `Decoder.run_eq_ok_iff`, `Decoder.run_of_scan` — a text decodes as the document that it holds;
* `Decoder.run_bind_of_ok`, `Decoder.run_bind_eq_ok_iff` — what is made of a decoded text.
-/

variable {α σ : Type}

/-- Induction over the members of an object; it does not enter their values. -/
@[elab_as_elim] theorem Members.induction {motive : Members → Prop}
    (done : ∀ ending, motive (.done ending))
    (more : ∀ key value raw rest, motive rest → motive (.more key value raw rest)) :
    ∀ members, motive members
  | .done ending => done ending
  | .more key value raw rest => more key value raw rest (Members.induction done more rest)

/-- The value of the first member of that name. -/
def Members.value? (name : String) : Members → Option Document
  | .done _ => none
  | .more key value _ rest =>
    if key.read.toOption = some name then some value else rest.value? name

theorem Members.value?_of_eq {name : String} {key : Scanned String} {value : Document}
    {raw : String} {rest : Members} (h : key.read = .ok name) :
    (more key value raw rest).value? name = some value := by
  simp [value?, h, Except.toOption]

theorem Members.value?_of_ne {name : String} {key : Scanned String} {value : Document}
    {raw : String} {rest : Members} (h : key.read ≠ .ok name) :
    (more key value raw rest).value? name = rest.value? name := by
  rw [value?, if_neg]
  intro hsome
  cases hread : key.read with
  | ok k =>
    rw [hread] at h hsome
    exact h (congrArg Except.ok (Option.some.inj hsome))
  | error f =>
    rw [hread] at hsome
    cases hsome

@[simp] theorem checked_eq_ok_iff {r : Except Fault α} {a : α} : checked r = .ok a ↔ r = .ok a :=
  mapError_eq_ok_iff

/-- An object is walked to its end or not at all. -/
theorem Members.collect_done {step : σ → String → Document → Except DecodeError σ} {s s' : σ}
    {ending : Ending} (h : (Members.done ending).collect step s = .ok s') : s' = s := by
  obtain ⟨-, -, hs⟩ := map_eq_ok_iff.1 h
  exact hs.symm

theorem Members.collect_more {step : σ → String → Document → Except DecodeError σ} {s s' : σ}
    {key : Scanned String} {value : Document} {raw : String} {rest : Members}
    (h : (Members.more key value raw rest).collect step s = .ok s') :
    ∃ k s₁, key.read = .ok k ∧ step s k value = .ok s₁ ∧ rest.collect step s₁ = .ok s' := by
  obtain ⟨k, hk, hrest⟩ := bind_eq_ok_iff.1 h
  obtain ⟨s₁, hs₁, hrest⟩ := bind_eq_ok_iff.1 hrest
  exact ⟨k, s₁, checked_eq_ok_iff.1 hk, hs₁, hrest⟩

theorem Members.collect_more_of {step : σ → String → Document → Except DecodeError σ}
    {key : Scanned String} {k : String} (hkey : key.read = .ok k) (value : Document) (raw : String)
    (rest : Members) (s : σ) :
    (more key value raw rest).collect step s = step s k value >>= fun s => rest.collect step s := by
  rw [collect, hkey]
  rfl

/-! ### One field of an object -/

namespace Members

/-- Whether a walk takes a field from the members of a name, once: `field` is what was found of it
    so far. -/
structure Takes (step : σ → String → Document → Except DecodeError σ) (name : String)
    (field : σ → Option α) (decode : Decoder α) : Prop where
  named : ∀ s d s', step s name d = .ok s' →
    field s = none ∧ ∃ a, decode d = .ok a ∧ field s' = some a
  other : ∀ s key d s', key ≠ name → step s key d = .ok s' → field s' = field s

variable {step : σ → String → Document → Except DecodeError σ} {name : String}
  {field : σ → Option α} {decode : Decoder α} {members : Members} {s s' : σ}

/-- Once the field was found there is no other. -/
theorem Takes.of_some (htakes : Takes step name field decode) {a : α} (hs : field s = some a)
    (h : members.collect step s = .ok s') : field s' = some a := by
  induction members using Members.induction generalizing s with
  | done ending =>
    rw [collect_done h]
    exact hs
  | more key value raw rest ih =>
    obtain ⟨k, s₁, -, hstep, hrest⟩ := collect_more h
    by_cases hk : k = name
    · subst hk
      obtain ⟨hnone, -⟩ := htakes.named _ _ _ hstep
      rw [hs] at hnone
      cases hnone
    · exact ih ((htakes.other _ _ _ _ hk hstep).trans hs) hrest

/-- What is found of the field is the first member of its name. -/
theorem Takes.of_none (htakes : Takes step name field decode) (hs : field s = none)
    (h : members.collect step s = .ok s') :
    (members.value? name = none ∧ field s' = none) ∨
      ∃ d a, members.value? name = some d ∧ decode d = .ok a ∧ field s' = some a := by
  induction members using Members.induction generalizing s with
  | done ending =>
    rw [collect_done h]
    exact .inl ⟨rfl, hs⟩
  | more key value raw rest ih =>
    obtain ⟨k, s₁, hk, hstep, hrest⟩ := collect_more h
    have hvalue : (Members.more key value raw rest).value? name
        = if k = name then some value else rest.value? name := by
      rw [Members.value?, hk]
      simp [Except.toOption]
    rw [hvalue]
    by_cases hname : k = name
    · subst hname
      obtain ⟨-, a, ha, hs₁⟩ := htakes.named _ _ _ hstep
      exact .inr ⟨value, a, if_pos rfl, ha, htakes.of_some hs₁ hrest⟩
    · rw [if_neg hname]
      exact ih ((htakes.other _ _ _ _ hname hstep).trans hs) hrest

/-- Another walk that differs in the field alone, and takes the value that is found of it as this
    one does, ends where this one does. -/
theorem Takes.collect_of_alike (htakes : Takes step name field decode)
    {step' : σ → String → Document → Except DecodeError σ} {Alike : Document → Prop}
    (hnamed : ∀ s d t, Alike d → step s name d = .ok t → step' s name d = .ok t)
    (hother : ∀ s key d, key ≠ name → step' s key d = step s key d)
    (halike : field s = none → ∀ d, members.value? name = some d → Alike d)
    (h : members.collect step s = .ok s') : members.collect step' s = .ok s' := by
  induction members using Members.induction generalizing s with
  | done ending => exact h
  | more key value raw rest ih =>
    obtain ⟨k, s₁, hk, hstep, hrest⟩ := collect_more h
    rw [collect_more_of hk]
    by_cases hname : k = name
    · subst hname
      obtain ⟨hnone, a, -, hs₁⟩ := htakes.named _ _ _ hstep
      rw [hnamed s value s₁ (halike hnone value (value?_of_eq hk)) hstep]
      exact ih (fun hs₁' => by cases hs₁.symm.trans hs₁') hrest
    · rw [hother s k value hname, hstep]
      refine ih (fun hs₁ d hd => ?_) hrest
      have hkey : key.read ≠ .ok name := fun hkey => hname (Except.ok.inj (hk.symm.trans hkey))
      exact halike ((htakes.other _ _ _ _ hname hstep).symm.trans hs₁) d
        ((value?_of_ne hkey).trans hd)

end Members

/-! ### Objects that are well formed -/

namespace Members

/-- The members of an object whose keys are texts and which ends in its closing brace. -/
def entries? : Members → Option (List (String × Document))
  | .done .closed => some []
  | .done _ => none
  | .more key value _ rest => do
    let k ← key.read.toOption
    let es ← rest.entries?
    some ((k, value) :: es)

theorem entries?_done_eq_some {ending : Ending} {es : List (String × Document)}
    (h : (Members.done ending).entries? = some es) : ending = .closed ∧ es = [] := by
  cases ending with
  | closed =>
    cases h
    exact ⟨rfl, rfl⟩
  | _ => cases h

theorem entries?_more_eq_some {key : Scanned String} {value : Document} {raw : String}
    {rest : Members} {es : List (String × Document)}
    (h : (Members.more key value raw rest).entries? = some es) :
    ∃ k es', key.read = .ok k ∧ rest.entries? = some es' ∧ es = (k, value) :: es' := by
  obtain ⟨k, hk, h⟩ := Option.bind_eq_some_iff.1 h
  obtain ⟨es', hes', h⟩ := Option.bind_eq_some_iff.1 h
  cases h
  refine ⟨k, es', ?_, hes', rfl⟩
  cases hread : key.read with
  | ok k' =>
    rw [hread] at hk
    cases hk
    rfl
  | error f =>
    rw [hread] at hk
    cases hk

/-- An object that is well formed is walked along its members. -/
theorem collect_of_entries {step : σ → String → Document → Except DecodeError σ} {members : Members}
    {es : List (String × Document)} (h : members.entries? = some es) (s : σ) :
    members.collect step s = es.foldlM (fun s e => step s e.1 e.2) s := by
  induction members using Members.induction generalizing es s with
  | done ending =>
    obtain ⟨rfl, rfl⟩ := entries?_done_eq_some h
    rfl
  | more key value raw rest ih =>
    obtain ⟨k, es', hk, hes', rfl⟩ := entries?_more_eq_some h
    rw [collect, hk, List.foldlM_cons]
    show (step s k value >>= fun s => rest.collect step s) = _
    simp only [ih hes']

end Members

/-! ### Members, items and whole texts -/

theorem Items.required_eq_ok {index : Nat} {expected : String} {decode : Decoder α}
    {items rest : Items} {a : α} (h : items.required index expected decode = .ok (a, rest)) :
    ∃ d, items = .more d rest ∧ decode d = .ok a := by
  obtain ⟨⟨first, behind⟩, hfirst, hrest⟩ := bind_eq_ok_iff.1 h
  cases items with
  | done ending =>
    obtain ⟨-, -, heq⟩ := map_eq_ok_iff.1 hfirst
    cases heq
    cases hrest
  | more d is =>
    obtain ⟨b, hb, heq⟩ := map_eq_ok_iff.1 hfirst
    cases heq
    cases hrest
    exact ⟨d, rfl, hb⟩

theorem Items.required_more {index : Nat} {expected : String} {decode : Decoder α} {d : Document}
    {rest : Items} {a : α} (h : decode d = .ok a) :
    (more d rest).required index expected decode = .ok (a, rest) :=
  bind_eq_ok_iff.2 ⟨_, map_eq_ok_iff.2 ⟨a, h, rfl⟩, rfl⟩

namespace Decoder

theorem once_eq_ok_iff {name : String} {before after : Option α} {decode : Decoder α}
    {d : Document} :
    once name before decode d = .ok after ↔
      before = none ∧ ∃ a, decode d = .ok a ∧ after = some a := by
  cases before with
  | some b => simp [once]
  | none =>
    rw [once, map_eq_ok_iff]
    simp [eq_comm]

theorem option_of_ne_null {decode : Decoder α} {d : Document} (h : d ≠ .null) :
    option decode d = (decode d).map some := by
  cases d with
  | null => exact absurd rfl h
  | _ => rfl

theorem needed_eq_ok_iff {name : String} {value : Option α} {a : α} :
    needed name value = .ok a ↔ value = some a := by
  cases value <;> simp [needed]

theorem ignored_eq_ok_iff {s s' : σ} {d : Document} :
    ignored s d = .ok s' ↔ d.skip = .ok () ∧ s' = s := by
  rw [ignored, map_eq_ok_iff]
  constructor
  · rintro ⟨_, hd, rfl⟩
    exact ⟨checked_eq_ok_iff.1 hd, rfl⟩
  · rintro ⟨hd, rfl⟩
    exact ⟨(), checked_eq_ok_iff.2 hd, rfl⟩

/-- A text decodes to what the document that it holds decodes to, if nothing but blanks is left. -/
theorem run_eq_ok_iff {decode : Decoder α} {s : String} {a : α} :
    decode.run s = .ok a ↔
      decode (Document.scan s.toList).1 = .ok a ∧
        onlyBlanks (Document.scan s.toList).2 = true := by
  rw [run]
  generalize Document.scan s.toList = scanned
  constructor
  · intro h
    obtain ⟨a', ha', hrest⟩ := bind_eq_ok_iff.1 h
    split at hrest
    · rename_i hblanks
      cases hrest
      exact ⟨ha', hblanks⟩
    · cases hrest
  · rintro ⟨ha, hblanks⟩
    exact bind_eq_ok_iff.2 ⟨a, ha, if_pos hblanks⟩

theorem eq_ok_of_run {decode : Decoder α} {s : String} {a : α} (h : decode.run s = .ok a) :
    decode (Document.scan s.toList).1 = .ok a :=
  (run_eq_ok_iff.1 h).1

/-- A document with nothing but blanks behind it is decoded as if it stood alone. -/
theorem run_of_scan {decode : Decoder α} {s : String} {d : Document} {rest : Option (List Char)}
    (hscan : Document.scan s.toList = (d, rest)) (hrest : onlyBlanks rest = true) :
    decode.run s = decode d := by
  rw [run, hscan]
  show (decode d >>= fun a => if onlyBlanks rest then .ok a else _) = decode d
  rw [hrest]
  exact bind_pure (decode d)

/-- What is made of a decoded text depends on what it was decoded to, and on nothing else of it. -/
theorem run_bind_of_ok {β : Type} {decode : Decoder α} {f : α → Except DecodeError β} {s : String}
    {a : α} (h : decode.run s = .ok a) : run (fun d => decode d >>= f) s = f a := by
  obtain ⟨ha, hblanks⟩ := run_eq_ok_iff.1 h
  have hrun : run (fun d => decode d >>= f) s = decode (Document.scan s.toList).1 >>= f :=
    run_of_scan (Prod.eta _).symm hblanks
  rw [hrun, ha]
  rfl

theorem run_bind_eq_ok_iff {β : Type} {decode : Decoder α} {f : α → Except DecodeError β}
    {s : String} {b : β} :
    run (fun d => decode d >>= f) s = .ok b ↔ ∃ a, decode.run s = .ok a ∧ f a = .ok b := by
  constructor
  · intro h
    obtain ⟨hb, hblanks⟩ := run_eq_ok_iff.1 h
    obtain ⟨a, ha, hfa⟩ := bind_eq_ok_iff.1 hb
    exact ⟨a, run_eq_ok_iff.2 ⟨ha, hblanks⟩, hfa⟩
  · rintro ⟨a, ha, hfa⟩
    rw [run_bind_of_ok ha, hfa]

end Decoder

end NonceAllocation
