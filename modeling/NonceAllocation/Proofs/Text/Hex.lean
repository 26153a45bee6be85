import Mathlib.Data.List.Forall2
import NonceAllocation.Proofs.Basic
import NonceAllocation.Proofs.Text.Bytes
import NonceAllocation.Text.Hex

namespace NonceAllocation

/-!
# Hexadecimal digits — the bytes that a text spells

The reader looks at the bytes of a text.  Told by its characters, a text spells bytes if it is two
digits for each of them, of whatever case.

* `Hex.IsDigitOf`, `Hex.Spells` — the digits of a value, and the texts of bytes;
* `Hex.IsDigitByte`, `Hex.Misspells` — the bytes of digits, and what is wrong with a text that does
  not spell the wanted number of bytes;
* `Hex.values_eq_ok_iff`, `Hex.values_eq_error_iff` — all bytes are digits, or the first that is
  none;
* `Hex.decode_eq_ok_iff`, `Hex.decode_eq_error_iff` — what is read is what is spelled, and the fault
  that is told otherwise;
* `Hex.spells_encode`, `Hex.Spells.toLower` — in lower case a text is the one that its bytes are
  written as.
-/

namespace Hex

variable {c : Char} {v position count : Nat} {b : UInt8} {cs : List Char}
  {bs bytes : List UInt8} {vs : List Nat} {fault : HexFault}

/-! ### Digits -/

/-- Whether the character is the digit of the value, in either case. -/
def IsDigitOf (c : Char) (v : Nat) : Prop :=
  "0123456789abcdef".toList[v]? = some c ∨ "0123456789ABCDEF".toList[v]? = some c

instance (c : Char) (v : Nat) : Decidable (IsDigitOf c v) := inferInstanceAs (Decidable (_ ∨ _))

/-- Whether the byte is that of a digit, in either case. -/
def IsDigitByte (b : UInt8) : Prop :=
  '0'.toUInt8 ≤ b ∧ b ≤ '9'.toUInt8 ∨ 'a'.toUInt8 ≤ b ∧ b ≤ 'f'.toUInt8 ∨
    'A'.toUInt8 ≤ b ∧ b ≤ 'F'.toUInt8

instance (b : UInt8) : Decidable (IsDigitByte b) := inferInstanceAs (Decidable (_ ∨ _ ∨ _))

theorem IsDigitOf.lt (h : IsDigitOf c v) : v < 16 := by
  rcases h with hc | hc
  · exact (List.getElem?_eq_some_iff.1 hc).1
  · exact (List.getElem?_eq_some_iff.1 hc).1

/-- What is true of both digits of each value is true of all digits. -/
theorem IsDigitOf.elim {p : Char → Nat → Prop} (h : IsDigitOf c v)
    (hp : ∀ v < 16, p ("0123456789abcdef".toList.getD v '0') v ∧
      p ("0123456789ABCDEF".toList.getD v '0') v) : p c v := by
  obtain ⟨hlower, hupper⟩ := hp v h.lt
  rcases h with hc | hc
  · rwa [List.getD_eq_getElem?_getD, hc] at hlower
  · rwa [List.getD_eq_getElem?_getD, hc] at hupper

/-- The digits are characters of ASCII, and the reader knows their values. -/
theorem isDigitOf_iff :
    IsDigitOf c v ↔ c.toNat < 128 ∧ value? (UInt8.ofNat c.toNat) = some v := by
  constructor
  · intro h
    exact h.elim (p := fun c v => c.toNat < 128 ∧ value? (UInt8.ofNat c.toNat) = some v) (by decide)
  · rintro ⟨hc, hv⟩
    have hall : ∀ n < 128, ∀ v ∈ value? (UInt8.ofNat n), IsDigitOf (Char.ofNat n) v := by
      decide +kernel
    rw [← Char.ofNat_toNat c]
    exact hall c.toNat hc v hv

theorem isSome_value?_iff : (value? b).isSome ↔ IsDigitByte b := by
  have hall : ∀ n < 256, (value? (UInt8.ofNat n)).isSome ↔ IsDigitByte (UInt8.ofNat n) := by
    decide +kernel
  rw [← UInt8.ofNat_toNat (x := b)]
  exact hall b.toNat b.toNat_lt

theorem IsDigitByte.lt (h : IsDigitByte b) : b.toNat < 128 := by
  have hall : ∀ n < 256, IsDigitByte (UInt8.ofNat n) → n < 128 := by decide +kernel
  exact hall b.toNat b.toNat_lt (by rwa [UInt8.ofNat_toNat])

/-- The digit that is written for a value is the lower-case one. -/
theorem IsDigitOf.toLower (h : IsDigitOf c v) : c.toLower = digit v :=
  h.elim (p := fun c v => c.toLower = digit v) (by decide)

theorem isDigitOf_digit (hv : v < 16) : IsDigitOf (digit v) v := by
  have hall : ∀ v < 16, IsDigitOf (digit v) v := by decide
  exact hall v hv

/-! ### Values -/

theorem values_eq_ok_iff :
    values position bs = .ok vs ↔ List.Forall₂ (fun b v => value? b = some v) bs vs := by
  induction bs generalizing position vs with
  | nil => simp [values, eq_comm]
  | cons b bs ih =>
    rw [values, List.forall₂_cons_left_iff]
    cases hb : value? b with
    | none => simp
    | some v =>
      rw [map_eq_ok_iff]
      simp only [ih, Option.some.injEq]
      constructor
      · rintro ⟨ws, hws, rfl⟩
        exact ⟨v, ws, rfl, hws, rfl⟩
      · rintro ⟨v, ws, rfl, hws, rfl⟩
        exact ⟨ws, hws, rfl⟩

/-- Whether `b`, behind `front`, is the first byte that is no digit. -/
def FirstBad (bs front : List UInt8) (b : UInt8) : Prop :=
  (∃ rest, bs = front ++ b :: rest) ∧ (∀ d ∈ front, IsDigitByte d) ∧ ¬ IsDigitByte b

theorem firstBad_cons_of_digit (hb : IsDigitByte b) {front : List UInt8} {bad : UInt8} :
    FirstBad (b :: bs) front bad ↔ ∃ front', front = b :: front' ∧ FirstBad bs front' bad := by
  constructor
  · rintro ⟨⟨rest, hbs⟩, hfront, hbad⟩
    cases front with
    | nil =>
      obtain ⟨rfl, -⟩ := List.cons.inj hbs
      exact absurd hb hbad
    | cons d front =>
      obtain ⟨rfl, hrest⟩ := List.cons.inj hbs
      exact ⟨front, rfl, ⟨rest, hrest⟩, (List.forall_mem_cons.1 hfront).2, hbad⟩
  · rintro ⟨front, rfl, ⟨rest, rfl⟩, hfront, hbad⟩
    exact ⟨⟨rest, rfl⟩, List.forall_mem_cons.2 ⟨hb, hfront⟩, hbad⟩

theorem firstBad_cons_of_not_digit (hb : ¬ IsDigitByte b) {front : List UInt8} {bad : UInt8} :
    FirstBad (b :: bs) front bad ↔ front = [] ∧ bad = b := by
  constructor
  · rintro ⟨⟨rest, hbs⟩, hfront, hbad⟩
    cases front with
    | nil => exact ⟨rfl, (List.cons.inj hbs).1.symm⟩
    | cons d front =>
      obtain ⟨rfl, -⟩ := List.cons.inj hbs
      exact absurd (hfront b List.mem_cons_self) hb
  · rintro ⟨rfl, rfl⟩
    exact ⟨⟨bs, rfl⟩, by simp, hb⟩

/-- The first byte that is no digit is told, with the number of the bytes in front of it. -/
theorem values_eq_error_iff :
    values position bs = .error fault ↔
      ∃ front b, FirstBad bs front b ∧ fault = .badDigit b (position + front.length) := by
  induction bs generalizing position with
  | nil =>
    constructor
    · intro h
      cases h
    · rintro ⟨front, b, ⟨⟨rest, h⟩, -⟩, -⟩
      simp at h
  | cons b bs ih =>
    rw [values]
    by_cases hb : IsDigitByte b
    · obtain ⟨v, hv⟩ := Option.isSome_iff_exists.1 (isSome_value?_iff.2 hb)
      simp only [hv, map_eq_error_iff, ih, firstBad_cons_of_digit hb]
      constructor
      · rintro ⟨front, bad, hbad, rfl⟩
        exact ⟨b :: front, bad, ⟨front, rfl, hbad⟩, by rw [List.length_cons]; congr 1; omega⟩
      · rintro ⟨_, bad, ⟨front, rfl, hbad⟩, rfl⟩
        exact ⟨front, bad, hbad, by rw [List.length_cons]; congr 1; omega⟩
    · have hnone : value? b = none := by
        rw [← Option.not_isSome_iff_eq_none, isSome_value?_iff]
        exact hb
      simp only [hnone, Except.error.injEq, firstBad_cons_of_not_digit hb]
      constructor
      · rintro rfl
        exact ⟨[], b, ⟨rfl, rfl⟩, rfl⟩
      · rintro ⟨_, _, ⟨rfl, rfl⟩, rfl⟩
        rfl

/-! ### Spelled bytes -/

/-- Whether the text is two digits for each of the bytes. -/
inductive Spells : List Char → List UInt8 → Prop where
  | nil : Spells [] []
  | cons {c d : Char} {b : UInt8} {cs : List Char} {bs : List UInt8}
      (hc : IsDigitOf c (b.toNat / 16)) (hd : IsDigitOf d (b.toNat % 16)) (h : Spells cs bs) :
      Spells (c :: d :: cs) (b :: bs)

theorem Spells.length_eq (h : Spells cs bytes) : cs.length = 2 * bytes.length := by
  induction h with
  | nil => rfl
  | cons _ _ _ ih =>
    rw [List.length_cons, List.length_cons, ih, List.length_cons]
    omega

/-- The bytes of a text are the digits of values exactly if its characters are. -/
theorem digits_utf8_iff :
    List.Forall₂ (fun b v => value? b = some v) (cs.flatMap String.utf8EncodeChar) vs ↔
      List.Forall₂ IsDigitOf cs vs := by
  induction cs generalizing vs with
  | nil => rw [List.flatMap_nil, List.forall₂_nil_left_iff, List.forall₂_nil_left_iff]
  | cons c cs ih =>
    by_cases hc : c.toNat < 128
    · have hdigit : ∀ v, value? (UInt8.ofNat c.toNat) = some v ↔ IsDigitOf c v := by
        intro v
        rw [isDigitOf_iff, and_iff_right hc]
      rw [List.flatMap_cons, utf8EncodeChar_of_ascii hc, List.singleton_append,
        List.forall₂_cons_left_iff, List.forall₂_cons_left_iff]
      simp only [hdigit, ih]
    · constructor
      · -- One of the bytes is none of ASCII, and no digit.
        intro h
        obtain ⟨b, hb, hhigh⟩ := exists_high_byte hc
        have hmem : b ∈ (c :: cs).flatMap String.utf8EncodeChar :=
          List.mem_flatMap.2 ⟨c, List.mem_cons_self, hb⟩
        obtain ⟨v, hv⟩ := exists_forall₂_iff.1 ⟨vs, h⟩ b hmem
        have hlow := (isSome_value?_iff.1 (Option.isSome_iff_exists.2 ⟨v, hv⟩)).lt
        omega
      · intro h
        obtain ⟨v, ws, hv, -⟩ := List.forall₂_cons_left_iff.1 h
        exact absurd (isDigitOf_iff.1 hv).1 hc

/-- The values of the digits that bytes are written with. -/
def halves (bytes : List UInt8) : List Nat := bytes.flatMap fun b => [b.toNat / 16, b.toNat % 16]

theorem pairs_halves (bytes : List UInt8) : pairs (halves bytes) = bytes := by
  induction bytes with
  | nil => rfl
  | cons b bytes ih =>
    show UInt8.ofNat (b.toNat / 16 * 16 + b.toNat % 16) :: pairs (halves bytes) = b :: bytes
    rw [ih, Nat.div_add_mod', UInt8.ofNat_toNat]

theorem Spells.digits (h : Spells cs bytes) : List.Forall₂ IsDigitOf cs (halves bytes) := by
  induction h with
  | nil => exact .nil
  | cons hc hd _ ih => exact .cons hc (.cons hd ih)

/-- Digits of an even number are spelled bytes, two digits each. -/
theorem spells_of_digits (h : List.Forall₂ IsDigitOf cs vs) (heven : cs.length % 2 = 0) :
    Spells cs (pairs vs) := by
  induction vs using pairs.induct generalizing cs with
  | case1 high low rest ih =>
    cases h with
    | cons hc h =>
      cases h with
      | cons hd h =>
        have hhigh := hc.lt
        have hlow := hd.lt
        have hbyte : (UInt8.ofNat (high * 16 + low)).toNat = high * 16 + low := by
          rw [UInt8.toNat_ofNat', Nat.mod_eq_of_lt (by omega)]
        have hquot : (high * 16 + low) / 16 = high := by omega
        have hrem : (high * 16 + low) % 16 = low := by omega
        refine .cons ?_ ?_ (ih h ?_)
        · rwa [hbyte, hquot]
        · rwa [hbyte, hrem]
        · rw [List.length_cons, List.length_cons] at heven
          omega
  | case2 vs hvs =>
    cases h with
    | nil => exact .nil
    | cons hc h =>
      cases h with
      | nil => cases heven
      | cons hd h => exact absurd rfl (hvs _ _ _)

/-! ### Reading -/

/-- What is wrong with a text that does not spell the wanted number of bytes, the first fault of
    three. -/
inductive Misspells (count : Nat) (cs : List Char) : HexFault → Prop where
  | odd (h : (cs.flatMap String.utf8EncodeChar).length % 2 = 1) : Misspells count cs .oddLength
  | length (heven : (cs.flatMap String.utf8EncodeChar).length % 2 = 0)
      (h : (cs.flatMap String.utf8EncodeChar).length ≠ 2 * count) : Misspells count cs .wrongLength
  | digit {front : List UInt8} {b : UInt8}
      (hlength : (cs.flatMap String.utf8EncodeChar).length = 2 * count)
      (h : FirstBad (cs.flatMap String.utf8EncodeChar) front b) :
      Misspells count cs (.badDigit b front.length)

theorem decode_of_length (h : (cs.flatMap String.utf8EncodeChar).length = 2 * count) :
    decode count cs = (values 0 (cs.flatMap String.utf8EncodeChar)).map pairs := by
  simp only [decode, h]
  rw [if_neg (by omega), if_neg (by omega)]

/-- A text of the right length either is all digits or has a first byte that is none. -/
theorem spells_or_misspells_of_length
    (h : (cs.flatMap String.utf8EncodeChar).length = 2 * count) :
    (∃ bytes, Spells cs bytes ∧ bytes.length = count) ∨ ∃ fault, Misspells count cs fault := by
  cases hvalues : values 0 (cs.flatMap String.utf8EncodeChar) with
  | ok vs =>
    have hutf8 := values_eq_ok_iff.1 hvalues
    have hdigits := digits_utf8_iff.1 hutf8
    have hlength : cs.length = 2 * count := by
      rw [hdigits.length_eq, ← hutf8.length_eq, h]
    have hspells := spells_of_digits hdigits (by omega)
    have hbytes := hspells.length_eq
    exact .inl ⟨pairs vs, hspells, by omega⟩
  | error fault =>
    obtain ⟨front, b, hbad, -⟩ := values_eq_error_iff.1 hvalues
    exact .inr ⟨_, .digit h hbad⟩

theorem spells_or_misspells (count : Nat) (cs : List Char) :
    (∃ bytes, Spells cs bytes ∧ bytes.length = count) ∨ ∃ fault, Misspells count cs fault := by
  by_cases hodd : (cs.flatMap String.utf8EncodeChar).length % 2 = 1
  · exact .inr ⟨_, .odd hodd⟩
  · by_cases hlength : (cs.flatMap String.utf8EncodeChar).length = 2 * count
    · exact spells_or_misspells_of_length hlength
    · exact .inr ⟨_, .length (by omega) hlength⟩

theorem decode_of_spells (h : Spells cs bytes ∧ bytes.length = count) :
    decode count cs = .ok bytes := by
  obtain ⟨h, rfl⟩ := h
  have hutf8 := digits_utf8_iff.2 h.digits
  have hlength : (cs.flatMap String.utf8EncodeChar).length = 2 * bytes.length := by
    rw [hutf8.length_eq, ← h.digits.length_eq, h.length_eq]
  rw [decode_of_length hlength, values_eq_ok_iff.2 hutf8]
  show Except.ok (pairs (halves bytes)) = .ok bytes
  rw [pairs_halves]

theorem decode_of_misspells (h : Misspells count cs fault) : decode count cs = .error fault := by
  cases h with
  | odd h => simp only [decode, if_pos h]
  | length heven h =>
    simp only [decode]
    rw [if_neg (by omega), if_pos h]
  | digit hlength h =>
    rw [decode_of_length hlength, map_eq_error_iff, values_eq_error_iff]
    exact ⟨_, _, h, by rw [Nat.zero_add]⟩

theorem decode_eq_ok_iff : decode count cs = .ok bytes ↔ Spells cs bytes ∧ bytes.length = count :=
  eq_ok_iff_of_cases (fun _ => decode_of_spells) (fun _ => decode_of_misspells)
    (spells_or_misspells count cs)

theorem decode_eq_error_iff : decode count cs = .error fault ↔ Misspells count cs fault :=
  eq_error_iff_of_cases (fun _ => decode_of_spells) (fun _ => decode_of_misspells)
    (spells_or_misspells count cs)

/-! ### Cases of letters -/

theorem spells_encode (bytes : List UInt8) : Spells (encode bytes) bytes := by
  induction bytes with
  | nil => exact .nil
  | cons b bytes ih =>
    have hb : b.toNat < 256 := b.toNat_lt
    exact .cons (isDigitOf_digit (by omega)) (isDigitOf_digit (by omega)) ih

/-- In lower case the text of bytes is the one that they are written as. -/
theorem Spells.toLower (h : Spells cs bytes) : cs.map Char.toLower = encode bytes := by
  induction h with
  | nil => rfl
  | @cons c d b cs bs hc hd _ ih =>
    rw [List.map_cons, List.map_cons, hc.toLower, hd.toLower, ih]
    rfl

end Hex

end NonceAllocation
