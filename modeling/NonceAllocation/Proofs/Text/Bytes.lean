import Mathlib.Data.List.Basic
import Mathlib.Tactic.Common

namespace NonceAllocation

/-!
# Bytes — texts that are judged by their bytes

A reader that looks at the bytes of a text, and takes none but those of ASCII, takes texts of ASCII
characters only, of which each is one byte.

* `utf8EncodeChar_of_ascii`, `exists_high_byte` — a character of ASCII is the byte of its number,
  any other one has a byte that is none of ASCII;
* `forall_byte_iff` — hence texts all of whose bytes are of a kind of ASCII, told by their
  characters;
* `bytes_of_ascii` — such a text has one byte for each character, that of its number.
-/

variable {c : Char} {cs : List Char}

/-! ### Characters of ASCII -/

theorem utf8EncodeChar_of_ascii (hc : c.toNat < 128) :
    String.utf8EncodeChar c = [UInt8.ofNat c.toNat] := by
  have hle : c.val.toNat ≤ 0x7f := Nat.le_of_lt_succ hc
  unfold String.utf8EncodeChar
  rw [if_pos hle]
  rfl

/-- The first byte of any other character is none of ASCII. -/
theorem exists_high_byte (hc : ¬ c.toNat < 128) :
    ∃ b ∈ String.utf8EncodeChar c, 128 ≤ b.toNat := by
  have hnot : ¬ c.val.toNat ≤ 0x7f := fun h => hc (Nat.lt_succ_of_le h)
  have hlead : ∀ lead base bound : Nat, 128 ≤ base → base + bound ≤ 256 → 0 < bound →
      128 ≤ (UInt8.ofNat (lead % bound + base)).toNat := by
    intro lead base bound hbase hsum hpos
    have hlt : lead % bound < bound := Nat.mod_lt lead hpos
    rw [UInt8.toNat_ofNat', Nat.mod_eq_of_lt (by omega)]
    omega
  unfold String.utf8EncodeChar
  rw [if_neg hnot]
  split_ifs
  · exact ⟨_, List.mem_cons_self, hlead _ 0xc0 0x20 (by omega) (by omega) (by omega)⟩
  · exact ⟨_, List.mem_cons_self, hlead _ 0xe0 0x10 (by omega) (by omega) (by omega)⟩
  · exact ⟨_, List.mem_cons_self, hlead _ 0xf0 0x08 (by omega) (by omega) (by omega)⟩

/-! ### Texts of ASCII -/

/-- A kind of bytes of ASCII, told by the characters. -/
theorem forall_byte_iff {p : UInt8 → Prop} (hp : ∀ b, p b → b.toNat < 128) :
    (∀ b ∈ cs.flatMap String.utf8EncodeChar, p b)
      ↔ ∀ c ∈ cs, c.toNat < 128 ∧ p (UInt8.ofNat c.toNat) := by
  simp only [List.mem_flatMap, forall_exists_index, and_imp]
  constructor
  · intro h c hc
    by_cases hascii : c.toNat < 128
    · refine ⟨hascii, h _ c hc ?_⟩
      simp [utf8EncodeChar_of_ascii hascii]
    · obtain ⟨b, hb, hhigh⟩ := exists_high_byte hascii
      have hlow := hp b (h b c hc hb)
      omega
  · intro h b c hc hb
    obtain ⟨hascii, hpc⟩ := h c hc
    rw [utf8EncodeChar_of_ascii hascii, List.mem_singleton] at hb
    rw [hb]
    exact hpc

/-- The bytes of a text of ASCII are the numbers of its characters. -/
theorem bytes_of_ascii (h : ∀ c ∈ cs, c.toNat < 128) :
    cs.flatMap String.utf8EncodeChar = cs.map fun c => UInt8.ofNat c.toNat := by
  induction cs with
  | nil => rfl
  | cons c cs ih =>
    obtain ⟨hc, hcs⟩ := List.forall_mem_cons.1 h
    rw [List.flatMap_cons, utf8EncodeChar_of_ascii hc, ih hcs]
    rfl

end NonceAllocation
