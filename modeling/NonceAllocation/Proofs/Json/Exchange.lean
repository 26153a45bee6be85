import NonceAllocation.Proofs.Json.Place

namespace NonceAllocation

/-!
# Exchanges — what is decoded when a value is exchanged for another one

A decoder walks a document from left to right, so what it makes of a document in which one value was
exchanged is what it made of the document before, up to this value.

* `Turns` — a result turns into another one that is related to it, or into a fault;
* `Members.collect_of_related` — a walk along the members, begun with two related states;
* `Members.collect_of_differ` — a walk along an object in which one value is exchanged;
* `Decoder.Exposes` — a fault of a value is a fault of what holds it.
-/

variable {α β σ : Type} {fault : Option DecodeError} {e : DecodeError}

/-- Whether the result `a` has turned into the fault, or, if there is none, into a result that is
    related to it. -/
def Turns (fault : Option DecodeError) (Rel : α → α → Prop) (a : α) (x : Except DecodeError α) :
    Prop :=
  match fault with
  | some e => x = .error e
  | none => ∃ a', x = .ok a' ∧ Rel a a'

theorem Turns.bind {Rel : α → α → Prop} {Rel' : β → β → Prop} {f : α → Except DecodeError β} {a : α}
    {b : β} {x : Except DecodeError α} (h : Turns fault Rel a x)
    (hf : ∀ a', fault = none → Rel a a' → Turns fault Rel' b (f a')) :
    Turns fault Rel' b (x >>= f) := by
  cases fault with
  | some e =>
    obtain rfl : x = .error e := h
    rfl
  | none =>
    obtain ⟨a', rfl, hrel⟩ := h
    exact hf a' rfl hrel

theorem Turns.map {Rel : α → α → Prop} {Rel' : β → β → Prop} {f : α → β} {a : α}
    {x : Except DecodeError α} (h : Turns fault Rel a x)
    (hf : ∀ a', Rel a a' → Rel' (f a) (f a')) : Turns fault Rel' (f a) (x.map f) := by
  cases fault with
  | some e =>
    obtain rfl : x = .error e := h
    rfl
  | none =>
    obtain ⟨a', rfl, hrel⟩ := h
    exact ⟨f a', rfl, hf a' hrel⟩

/-! ### Objects -/

namespace Members

variable {step : σ → String → Document → Except DecodeError σ} {Rel : σ → σ → Prop}
  {R : Document → Document → Prop} {name : String} {ms ms' : Members} {s s' t : σ}

/-- Two walks along the same members stay related. -/
theorem collect_of_related
    (hstep : ∀ s s' key d t, Rel s s' → step s key d = .ok t →
      ∃ t', step s' key d = .ok t' ∧ Rel t t')
    (hs : Rel s s') (h : ms.collect step s = .ok t) :
    ∃ t', ms.collect step s' = .ok t' ∧ Rel t t' := by
  induction ms using Members.induction generalizing s s' with
  | done ending =>
    obtain ⟨_, hending, rfl⟩ := map_eq_ok_iff.1 h
    exact ⟨s', map_eq_ok_iff.2 ⟨_, hending, rfl⟩, hs⟩
  | more key value raw rest ih =>
    obtain ⟨k, s₁, hk, hs₁, hrest⟩ := collect_more h
    obtain ⟨s₁', hs₁', hrel⟩ := hstep s s' k value s₁ hs hs₁
    rw [collect_more_of hk, hs₁']
    exact ih hrel hrest

/-- A walk goes as before up to the value that is exchanged, and behind it goes on from what became
    of the state. -/
theorem collect_of_differ (hdiffer : ms.Differ R name ms')
    (hnamed : ∀ s d d' t, R d d' → step s name d = .ok t → Turns fault Rel t (step s name d'))
    (hstep : fault = none → ∀ s s' key d t, Rel s s' → step s key d = .ok t →
      ∃ t', step s' key d = .ok t' ∧ Rel t t')
    (h : ms.collect step s = .ok t) : Turns fault Rel t (ms'.collect step s) := by
  induction hdiffer generalizing s with
  | here hkey hR =>
    obtain ⟨k, s₁, hk, hs₁, hrest⟩ := collect_more h
    rw [hkey] at hk
    cases hk
    rw [collect_more_of hkey]
    refine (hnamed _ _ _ _ hR hs₁).bind fun s₁' hfault hrel => ?_
    -- Without a fault the members behind are walked from both states.
    subst hfault
    exact collect_of_related (hstep rfl) hrel hrest
  | behind hkey hdiffer ih =>
    obtain ⟨k, s₁, hk, hs₁, hrest⟩ := collect_more h
    rw [collect_more_of hk, hs₁]
    exact ih hrest

/-- A fault in the value that is exchanged ends the walk. -/
theorem collect_eq_error_of_differ (hdiffer : ms.Differ R name ms')
    (hnamed : ∀ s d d' t, R d d' → step s name d = .ok t → step s name d' = .error e)
    (h : ms.collect step s = .ok t) : ms'.collect step s = .error e := by
  show Turns (some e) (fun _ _ => True) t (ms'.collect step s)
  exact collect_of_differ hdiffer hnamed (fun hnone => by cases hnone) h

end Members

/-! ### Faults -/

namespace Decoder

open Document

/-- Whether a fault of the value behind a step is a fault of the whole, where there was none. -/
def Exposes (outer : Decoder α) (step : PathStep) (inner : Decoder β) : Prop :=
  ∀ {R : Document → Document → Prop} {d d' : Document} {a : α} {e : DecodeError},
    DifferAt R step d d' → (∀ v v' b, R v v' → inner v = .ok b → inner v' = .error e) →
      outer d = .ok a → outer d' = .error e

/-- A field is taken if it has not been found before. -/
theorem once_of_error {name : String} {before after : Option α} {decode : Decoder α}
    {d d' : Document}
    (hdecode : ∀ a, decode d = .ok a → decode d' = .error e)
    (h : once name before decode d = .ok after) : once name before decode d' = .error e := by
  obtain ⟨rfl, a, ha, -⟩ := once_eq_ok_iff.1 h
  rw [once, hdecode a ha]
  rfl

theorem items_of_differ {decode : Decoder α} {R : Document → Document → Prop} {i : Nat}
    {is is' : Items} {as : List α} (hdiffer : is.Differ R i is')
    (hR : ∀ v v' a, R v v' → decode v = .ok a → decode v' = .error e)
    (h : items decode is = .ok as) :
    items decode is' = .error e := by
  induction hdiffer generalizing as with
  | here hd =>
    obtain ⟨a, ha, -⟩ := bind_eq_ok_iff.1 h
    rw [items, hR _ _ _ hd ha]
    rfl
  | behind hdiffer ih =>
    obtain ⟨a, ha, h⟩ := bind_eq_ok_iff.1 h
    obtain ⟨as', has', -⟩ := bind_eq_ok_iff.1 h
    rw [items, ha]
    show (items decode _ >>= _) = _
    rw [ih has']
    rfl

theorem list_exposes (decode : Decoder α) (i : Nat) : (list decode).Exposes (.item i) decode := by
  rintro R d d' as e ⟨is, is', rfl, rfl, hdiffer⟩ hR h
  exact items_of_differ hdiffer hR h

theorem required_of_error {decode : Decoder α} {index : Nat} {expected : String} {d : Document}
    {is : Items} (h : decode d = .error e) :
    (Items.more d is).required index expected decode = .error e := by
  rw [Items.required, Items.optional, h]
  rfl

/-- The first field of a structure, in either way of writing it. -/
theorem Exposes.of_first_field {outer : Decoder α} {inner : Decoder β} {name : String}
    {f : PathStep}
    {step : σ → String → Document → Except DecodeError σ} {start : σ}
    {finish : σ → Except DecodeError α} {field : σ → Option β} {put : σ → Option β → σ}
    (hf : f.IsField name 0) (hobject : ∀ ms, outer (.object ms) = ms.collect step start >>= finish)
    (hnamed : ∀ s d, step s name d = (once name (field s) inner d).map (put s))
    (harray : ∀ d is e, inner d = .error e → outer (.array (.more d is)) = .error e) :
    outer.Exposes f inner := by
  intro R d d' a e hdiffer hR h
  rcases hf with rfl | rfl
  · obtain ⟨ms, ms', rfl, rfl, hms⟩ := hdiffer
    rw [hobject] at h ⊢
    obtain ⟨t, ht, -⟩ := bind_eq_ok_iff.1 h
    have hwalk : ms'.collect step start = .error e := by
      refine Members.collect_eq_error_of_differ hms (fun s v v' t hv hs => ?_) ht
      rw [hnamed] at hs ⊢
      obtain ⟨after, hafter, -⟩ := map_eq_ok_iff.1 hs
      rw [once_of_error (fun b hb => hR v v' b hv hb) hafter]
      rfl
    rw [hwalk]
    rfl
  · obtain ⟨is, is', rfl, rfl, his⟩ := hdiffer
    cases his with
    | @here v v' is hv =>
      -- The list was decoded, so that its first item was no fault.
      cases hinner : inner v with
      | ok b => exact harray v' is e (hR v v' b hv hinner)
      | error e' =>
        rw [harray v is e' hinner] at h
        cases h

end Decoder

end NonceAllocation
