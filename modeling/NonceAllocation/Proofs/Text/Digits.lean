import NonceAllocation.Evm.Address
import NonceAllocation.Evm.Quantity
import NonceAllocation.Filecoin.Address
import NonceAllocation.Proofs.Basic
import NonceAllocation.Proofs.Text.Hex

namespace NonceAllocation

/-!
# Digits — what is written is read as what it was

Readers of digits go from left to right and carry the number of the digits so far.  A reader that
takes a further digit as it should is led to a number by the digits of that number.

* `read_toDigits` — the law of all such readers;
* `readMagnitude_of_digits`, `Unsigned.read_digits_eq_ok_iff` — decimal digits denote a number,
  which is read if it is in the limit;
* `Unsigned.Spells`, `Unsigned.read_eq_ok_iff` — the texts of numbers, with a sign or without;
* `ofDigitChars_inj` — as many decimal digits write a number in one way;
* `Unsigned.read_text`, `Quantity.read?_text` — decimal numbers, and hexadecimal quantities;
* `EvmAddress.ofDigits_eq_ok_iff`, `EvmAddress.readLoose_text` — addresses made of bytes;
* `FilAddress.read_text` — addresses whose payload is kept as a text.
-/

/-- **The law of digit readers.**  `read n cs` is what comes of `cs` behind digits of the number
    `n`.  If it takes one more digit as long as `limit` is not passed, then the digits of a number
    up to the limit lead it to the number. -/
theorem read_toDigits {β : Type} {radix limit : Nat} {read : Nat → List Char → β}
    (hradix : 1 < radix)
    (hstep : ∀ n d cs, d < radix → n * radix + d ≤ limit →
      read n (d.digitChar :: cs) = read (n * radix + d) cs)
    {n : Nat} (hn : n ≤ limit) (cs : List Char) :
    read 0 (Nat.toDigits radix n ++ cs) = read n cs := by
  induction n using Nat.strongRecOn generalizing cs with
  | ind n ih =>
    by_cases hlt : n < radix
    · have hsum : 0 * radix + n = n := by rw [Nat.zero_mul, Nat.zero_add]
      rw [Nat.toDigits_of_lt_base hlt, List.singleton_append, hstep 0 n cs hlt (by omega), hsum]
    · -- The last digit is taken behind those of the quotient.
      have hge : radix ≤ n := Nat.le_of_not_lt hlt
      have hsum : n / radix * radix + n % radix = n := Nat.div_add_mod' n radix
      have hquot : n / radix < n := Nat.div_lt_self (by omega) hradix
      have hrem : n % radix < radix := Nat.mod_lt n (by omega)
      rw [Nat.toDigits_of_base_le hradix hge, List.append_assoc, List.singleton_append,
        ih (n / radix) hquot (by omega), hstep (n / radix) (n % radix) cs hrem (by omega), hsum]

/-! ### Decimal numbers -/

/-- Only the digits of zero begin with a zero. -/
theorem head?_toDigits_ne_zero {n : Nat} (hn : n ≠ 0) : (Nat.toDigits 10 n).head? ≠ some '0' := by
  induction n using Nat.strongRecOn with
  | ind n ih =>
    by_cases hlt : n < 10
    · rw [Nat.toDigits_of_lt_base hlt, List.head?_cons, Ne, Option.some.injEq,
        Nat.digitChar_eq_zero]
      exact hn
    · rw [Nat.toDigits_of_base_le (by decide) (Nat.le_of_not_lt hlt),
        List.head?_append_of_ne_nil _ Nat.toDigits_ne_nil]
      exact ih (n / 10) (by omega) (by omega)

theorem le_ofDigitChars (n : Nat) (cs : List Char) : n ≤ Nat.ofDigitChars 10 cs n := by
  have hpos : 0 < 10 ^ cs.length := Nat.pow_pos (by decide)
  have hle : n ≤ 10 ^ cs.length * n := Nat.le_mul_of_pos_left n hpos
  rw [Nat.ofDigitChars_eq_ofDigitChars_zero]
  omega

/-- Digits are read as the number that they denote, unless it is past the limit: what has been read
    never gets smaller, so that the limit is passed for good. -/
theorem readMagnitude_of_digits {limit n : Nat} (beyond : IntegerFault) {cs : List Char}
    (hcs : ∀ c ∈ cs, c.isDigit = true) (hn : n ≤ limit) :
    readMagnitude limit beyond n cs
      = if Nat.ofDigitChars 10 cs n ≤ limit then .ok (Nat.ofDigitChars 10 cs n)
        else .error beyond := by
  induction cs generalizing n with
  | nil => rw [readMagnitude, Nat.ofDigitChars_nil, if_pos hn]
  | cons c cs ih =>
    obtain ⟨hc, hcs⟩ := List.forall_mem_cons.1 hcs
    have hnext : n * 10 + digitValue c = 10 * n + (c.toNat - '0'.toNat) := by
      rw [digitValue, Nat.mul_comm]
    rw [readMagnitude, if_pos hc, Nat.ofDigitChars_cons]
    simp only [hnext]
    by_cases hle : 10 * n + (c.toNat - '0'.toNat) ≤ limit
    · rw [if_pos hle, ih hcs hle]
    · have hgrown := le_ofDigitChars (10 * n + (c.toNat - '0'.toNat)) cs
      rw [if_neg hle, if_neg (by omega)]

/-- Nothing but digits is read. -/
theorem isDigit_of_readMagnitude {limit n m : Nat} {beyond : IntegerFault} {cs : List Char}
    (h : readMagnitude limit beyond n cs = .ok m) : ∀ c ∈ cs, c.isDigit = true := by
  induction cs generalizing n with
  | nil => simp
  | cons c cs ih =>
    rw [readMagnitude] at h
    split at h
    · rename_i hc
      simp only at h
      split at h
      · exact List.forall_mem_cons.2 ⟨hc, ih h⟩
      · cases h
    · cases h

/-- Behind numbers that were read before them, as many digits lead to the same number only if the
    numbers are the same and the digits are: a digit is what its step leaves modulo ten. -/
theorem ofDigitChars_inj {cs ds : List Char} (hcs : ∀ c ∈ cs, c.isDigit = true)
    (hds : ∀ d ∈ ds, d.isDigit = true) (hlength : cs.length = ds.length) {m n : Nat}
    (h : Nat.ofDigitChars 10 cs m = Nat.ofDigitChars 10 ds n) : m = n ∧ cs = ds := by
  induction cs generalizing ds m n with
  | nil =>
    obtain rfl := List.eq_nil_of_length_eq_zero hlength.symm
    exact ⟨h, rfl⟩
  | cons c cs ih =>
    cases ds with
    | nil => cases hlength
    | cons d ds =>
      obtain ⟨hc, hcs⟩ := List.forall_mem_cons.1 hcs
      obtain ⟨hd, hds⟩ := List.forall_mem_cons.1 hds
      rw [Nat.ofDigitChars_cons, Nat.ofDigitChars_cons] at h
      obtain ⟨hnext, rfl⟩ := ih hcs hds (Nat.succ.inj hlength) h
      simp only [Char.isDigit_iff_toNat, Char.reduceToNat] at hc hd hnext
      have hdigit : c = d := Char.toNat_inj.1 (by omega)
      exact ⟨by omega, by rw [hdigit]⟩

namespace Unsigned

variable {bits : Nat}

theorem readDigits_eq_ok_iff {cs : List Char} (hne : cs ≠ []) {n : Unsigned bits} :
    readDigits bits cs = .ok n ↔ readMagnitude (2 ^ bits - 1) .tooLarge 0 cs = .ok n.val := by
  rw [readDigits, if_neg (by simp [hne])]
  split
  · rename_i m hm
    simp only [hm, Except.ok.injEq, Unsigned.ext_iff]
  · rename_i e he
    simp [he]

/-- Digits are read as the number that they denote, if it fits the width, and nothing else is. -/
theorem readDigits_eq_ok_iff_ofDigitChars {cs : List Char} {n : Unsigned bits} :
    readDigits bits cs = .ok n ↔
      cs ≠ [] ∧ (∀ c ∈ cs, c.isDigit = true) ∧ Nat.ofDigitChars 10 cs 0 = n.val := by
  have hn := n.val_lt
  by_cases hne : cs = []
  · subst hne
    simp [readDigits]
  rw [readDigits_eq_ok_iff hne, and_iff_right hne]
  constructor
  · intro h
    have hcs := isDigit_of_readMagnitude h
    rw [readMagnitude_of_digits .tooLarge hcs (Nat.zero_le _)] at h
    split at h
    · exact ⟨hcs, Except.ok.inj h⟩
    · cases h
  · rintro ⟨hcs, hvalue⟩
    rw [readMagnitude_of_digits .tooLarge hcs (Nat.zero_le _), hvalue, if_pos (by omega)]

/-- A text that begins with a digit has no sign. -/
theorem read_eq_readDigits {c : Char} {cs : List Char} (hc : c.isDigit = true) :
    read bits (String.ofList (c :: cs)) = readDigits bits (c :: cs) := by
  rw [read, String.toList_ofList]
  split
  · rename_i h
    cases h
  · rename_i h
    obtain ⟨rfl, -⟩ := List.cons.inj h
    cases hc
  · rfl

/-- One or more digits are read as the number that they denote, if it fits the width. -/
theorem read_digits_eq_ok_iff {cs : List Char} (hne : cs ≠ []) (hcs : ∀ c ∈ cs, c.isDigit = true)
    {n : Unsigned bits} :
    read bits (String.ofList cs) = .ok n ↔ Nat.ofDigitChars 10 cs 0 = n.val := by
  have hread : read bits (String.ofList cs) = readDigits bits cs := by
    cases cs with
    | nil => exact absurd rfl hne
    | cons c cs => exact read_eq_readDigits (hcs c List.mem_cons_self)
  rw [hread, readDigits_eq_ok_iff_ofDigitChars, and_iff_right hne, and_iff_right hcs]

/-- Whether the text spells the number: one or more digits, leading zeros among them, behind a
    single plus that may be left out. -/
def Spells (s : String) (v : Nat) : Prop :=
  ∃ ds, ds ≠ [] ∧ (∀ c ∈ ds, c.isDigit = true) ∧ Nat.ofDigitChars 10 ds 0 = v ∧
    (s.toList = ds ∨ s.toList = '+' :: ds)

/-- The texts of numbers are read, and no others. -/
theorem read_eq_ok_iff {s : String} {n : Unsigned bits} : read bits s = .ok n ↔ Spells s n.val := by
  rw [read, Spells]
  split
  · rename_i hs
    simp only [hs, reduceCtorEq, or_false, false_iff]
    rintro ⟨ds, hne, -, -, h⟩
    exact hne h.symm
  · rename_i cs hs
    rw [readDigits_eq_ok_iff_ofDigitChars, hs]
    constructor
    · rintro ⟨hne, hcs, hvalue⟩
      exact ⟨cs, hne, hcs, hvalue, .inr rfl⟩
    · rintro ⟨ds, hne, hds, hvalue, h | h⟩
      · -- The plus is no digit.
        have hplus := hds '+' (h ▸ List.mem_cons_self)
        cases hplus
      · obtain rfl := (List.cons.inj h).2
        exact ⟨hne, hds, hvalue⟩
  · rename_i hplus
    rw [readDigits_eq_ok_iff_ofDigitChars]
    constructor
    · rintro ⟨hne, hcs, hvalue⟩
      exact ⟨s.toList, hne, hcs, hvalue, .inl rfl⟩
    · rintro ⟨ds, hne, hds, hvalue, h | h⟩
      · rw [h]
        exact ⟨hne, hds, hvalue⟩
      · exact absurd h (hplus ds)

/-- A number is read from its text. -/
theorem read_text (n : Unsigned bits) : read bits n.text = .ok n := by
  have htext : n.text = String.ofList (Nat.toDigits 10 n.val) := by
    rw [text, Nat.toString_eq_ofList_toDigits]
  have hdigits : ∀ c ∈ Nat.toDigits 10 n.val, c.isDigit = true := fun _ =>
    Nat.isDigit_of_mem_toDigits (by decide) (by decide)
  rw [htext, read_digits_eq_ok_iff Nat.toDigits_ne_nil hdigits, Nat.ofDigitChars_ten_toDigits]

end Unsigned

/-! ### Hexadecimal digits -/

theorem Digit.value?_digitChar : ∀ d < 16, value? 16 d.digitChar = some d := by decide

namespace Quantity

variable {bits : Nat}

theorem digits?_toDigits (n : Nat) : digits? 16 0 (Nat.toDigits 16 n) = some n := by
  have hstep : ∀ m d cs, d < 16 → m * 16 + d ≤ n →
      digits? 16 m (d.digitChar :: cs) = digits? 16 (m * 16 + d) cs := by
    intro m d cs hd _
    have hmark : d.digitChar ≠ '_' := Nat.digitChar_ne '_' (by decide)
    rw [digits?, if_neg hmark, Digit.value?_digitChar d hd]
  have hread := read_toDigits (by decide) hstep (Nat.le_refl n) []
  rwa [List.append_nil] at hread

/-- A quantity is read from its text. -/
theorem read?_text (n : Unsigned bits) : read? bits (text n) = some n := by
  have hradix : radix (text n).toList = (16, Nat.toDigits 16 n.val) := by
    rw [text, String.toList_ofList]
    rfl
  rw [read?, hradix]
  show (digits? 16 0 (Nat.toDigits 16 n.val)).bind (Unsigned.ofNat? bits) = some n
  rw [digits?_toDigits, Option.bind_some, Unsigned.ofNat?_eq_some_iff]

end Quantity

/-! ### Addresses -/

namespace EvmAddress

theorem ofDigits_eq_ok_iff {cs : List Char} {a : EvmAddress} :
    ofDigits cs = .ok a ↔ Hex.Spells cs a.bytes := by
  have hdecode : ofDigits cs = .ok a ↔ Hex.decode 20 cs = .ok a.bytes := by
    rw [ofDigits]
    split
    · rename_i bytes hbytes
      have hsame : Hex.decode 20 cs = .ok a.bytes ↔ bytes = a.bytes := by
        rw [hbytes, Except.ok.injEq]
      rw [hsame, Except.ok.injEq, EvmAddress.ext_iff]
    · rename_i e he
      rw [he]
      simp
  rw [hdecode, Hex.decode_eq_ok_iff, and_iff_left a.length_bytes]

/-- An address is read from its text. -/
theorem readLoose_text (a : EvmAddress) : readLoose a.text = .ok a := by
  rw [readLoose, text, String.toList_ofList]
  exact ofDigits_eq_ok_iff.2 (Hex.spells_encode a.bytes)

end EvmAddress

namespace FilAddress

/-- An address is read from its text. -/
theorem read_text (a : FilAddress) : read a.text = .ok a := by
  have hpayload : ofParts a.network a.protocol a.payload.toList = .ok a := by
    rw [ofParts, dif_pos a.accepts_payload, Except.ok.injEq]
    exact FilAddress.ext rfl rfl String.ofList_toList
  rw [read, text, String.toList_ofList]
  simp only [FilNetwork.ofLetter?_letter, FilProtocol.ofDigit?_digit]
  exact hpayload

end FilAddress

end NonceAllocation
