import NonceAllocation.Proofs.Json.Decode
import NonceAllocation.Proofs.Json.Written

namespace NonceAllocation

/-!
# Decoders — what is written is decoded

A decoder is asked for what it makes of `j.found`, the document that a written value is found as.

* `Decoder.text_found`, `Decoder.parsed_found`, `Decoder.unsigned_found`, `Decoder.option_found`,
  `Decoder.list_found` — single values and lists;
* `Members.entries?_found` — a written object is well formed;
* `Members.taken`, `Members.collect_found` — an object is walked along the members that it was
  written from, those that are left out among them;
* `Members.collect_required`, `Members.collect_optional` — one member of that walk.
-/

variable {α β σ : Type}

@[simp] theorem join_map_some (o : Option α) : (o.map some).join = o := by cases o <;> rfl

/-! ### Single values -/

namespace Decoder

theorem text_found (s : String) : text (Json.string s).found = .ok s := rfl

theorem parsed_found {read : String → Except String α} {s : String} {a : α} (h : read s = .ok a) :
    parsed read (Json.string s).found = .ok a :=
  bind_eq_ok_iff.2 ⟨s, text_found s, mapError_eq_ok_iff.2 h⟩

/-- A number of no more than 64 bits, which is the most that a numeral holds. -/
theorem unsigned_found {bits : Nat} (hbits : bits ≤ 64) (n : Unsigned bits) :
    unsigned bits (Json.number n.val).found = .ok n := by
  have hn : n.val < 2 ^ 64 := Nat.lt_of_lt_of_le n.val_lt (Nat.pow_le_pow_right Nat.two_pos hbits)
  refine bind_eq_ok_iff.2 ⟨.unsigned n.val, ?_, ?_⟩
  · rw [Number.read_ofWritten hn]
    rfl
  · dsimp only
    rw [Unsigned.ofNat?_eq_some_iff.2 rfl]

theorem items_found {decode : Decoder β} {write : β → Json} {bs : List β}
    (h : ∀ b ∈ bs, decode (write b).found = .ok b) :
    items decode (Json.foundItems (bs.map write)) = .ok bs := by
  induction bs with
  | nil => rfl
  | cons b bs ih =>
    obtain ⟨hb, hbs⟩ := List.forall_mem_cons.1 h
    rw [List.map_cons, Json.foundItems, items, hb, ih hbs]
    rfl

theorem list_found {decode : Decoder β} {write : β → Json} {bs : List β}
    (h : ∀ b ∈ bs, decode (write b).found = .ok b) :
    list decode (Json.array (bs.map write)).found = .ok bs := by
  rw [Json.found]
  exact items_found h

/-- What is written is never `null`. -/
theorem option_found (decode : Decoder α) (j : Json) :
    option decode j.found = (decode j.found).map some := by
  cases j <;> rfl

end Decoder

/-! ### Objects -/

namespace Members

open Decoder

variable {step : σ → String → Document → Except DecodeError σ} {s : σ} {key : String}
  {os : List (Option (String × Json))}

/-- What is written is an object of its members. -/
theorem entries?_found (ms : List (String × Json)) :
    (Json.foundMembers ms).entries? = some (ms.map fun m => (m.1, m.2.found)) := by
  induction ms with
  | nil => rfl
  | cons m ms ih =>
    show (Json.foundMembers ms).entries?.bind (fun es => some ((m.1, m.2.found) :: es)) = _
    rw [ih]
    rfl

/-- What becomes of `s` with a member that may have been left out. -/
def taken (step : σ → String → Document → Except DecodeError σ) (s : σ) :
    Option (String × Json) → Except DecodeError σ
  | none => .ok s
  | some (key, j) => step s key j.found

theorem collect_found (step : σ → String → Document → Except DecodeError σ) (s : σ)
    (os : List (Option (String × Json))) :
    (Json.foundMembers (os.filterMap id)).collect step s = os.foldlM (taken step) s := by
  induction os generalizing s with
  | nil => rfl
  | cons o os ih =>
    cases o with
    | none => exact ih s
    | some m =>
      rw [List.foldlM_cons]
      show (step s m.1 m.2.found >>= fun s => _) = (step s m.1 m.2.found >>= _)
      simp only [ih]

/-- A member that is always written. -/
theorem collect_required {decode : Decoder α} {set : Option α → σ} {j : Json} {a : α}
    (hstep : ∀ d, step s key d = (once key none decode d).map set)
    (hj : decode j.found = .ok a) :
    (some (key, j) :: os).foldlM (taken step) s = os.foldlM (taken step) (set (some a)) := by
  have htaken : taken step s (some (key, j)) = .ok (set (some a)) := by
    rw [taken, hstep, once, hj]
    rfl
  rw [List.foldlM_cons, htaken]
  rfl

/-- A member that is written only of a value that is there. -/
theorem collect_optional {decode : Decoder α} {set : Option (Option α) → σ} {write : α → Json}
    {o : Option α} (hstep : ∀ d, step s key d = (once key none (option decode) d).map set)
    (hset : set none = s) (ho : ∀ a ∈ o, decode (write a).found = .ok a) :
    (o.map (fun a => (key, write a)) :: os).foldlM (taken step) s
      = os.foldlM (taken step) (set (o.map some)) := by
  cases o with
  | none =>
    rw [Option.map_none, Option.map_none, hset]
    rfl
  | some a =>
    have hfound : option decode (write a).found = .ok (some a) := by
      rw [option_found, ho a rfl]
      rfl
    exact collect_required hstep hfound

end Members

end NonceAllocation
