import Mathlib.Data.List.TakeDrop
import Mathlib.Data.List.TakeWhile
import Mathlib.Tactic.Common
import NonceAllocation.Json.Value
import NonceAllocation.Json.Decode
import NonceAllocation.Proofs.Text.Digits

namespace NonceAllocation

/-!
# JSON strings and numbers — what is written is found

* `Escape.exists_piece`, `Escape.scan_body` — a written character is found as one piece, and a
  written string as itself, whatever follows its closing mark;
* `span_eq_iff` — the characters up to one that is different;
* `Delimited` — the texts that end a number;
* `Number.ofWritten`, `Number.scan_writeNumber` — a written whole number is found as the numeral of
  its digits;
* `Number.read_ofWritten` — which has the number's value if the number has no more than 64 bits.
-/

/-! ### Strings -/

namespace Escape

variable {c d : Char} {n : Nat}

theorem pieces_letter (hu : c ≠ 'u') (hc : letter? c = some d) (cs : List Char) :
    pieces ('\\' :: c :: cs) = (.char d :: (pieces cs).1, (pieces cs).2) := by
  rw [pieces]
  · rw [hc]
  · intro _ _ _ _ _ h _
    exact hu h
  · exact hu

theorem pieces_unit {a b : Char} (hn : hexValue4? a b c d = some n) (cs : List Char) :
    pieces ('\\' :: 'u' :: a :: b :: c :: d :: cs) = (.unit n :: (pieces cs).1, (pieces cs).2) := by
  rw [pieces, hn]

theorem pieces_plain (hmark : c ≠ '"') (hback : c ≠ '\\') (hplain : ¬ c < ' ') (cs : List Char) :
    pieces (c :: cs) = (.char c :: (pieces cs).1, (pieces cs).2) := by
  rw [pieces]
  · rw [if_neg hplain]
  all_goals simp [hmark, hback]

theorem hexValue4?_control (hn : n < 256) :
    hexValue4? '0' '0' (Nat.digitChar (n / 16)) (Nat.digitChar (n % 16)) = some n := by
  have hquot : n / 16 < 16 := by omega
  have hrem : n % 16 < 16 := by omega
  have hzero : Digit.value? 16 '0' = some 0 := by decide
  rw [hexValue4?, hzero, Digit.value?_digitChar _ hquot, Digit.value?_digitChar _ hrem]
  show some (((0 * 16 + 0) * 16 + n / 16) * 16 + n % 16) = some n
  congr 1
  omega

theorem join_unit (fault : Option Fault) (ps : List Piece) (hn : n < 0xD800) :
    join fault (.unit n :: ps) = (join fault ps).map (Char.ofNat n :: ·) := by
  rw [join.eq_def]
  show (if _ then _ else if _ then _ else _) = _
  rw [if_neg (by omega), if_neg (by omega)]

/-- A control character is escaped by a letter or by its code point. -/
theorem control_cases (c : Char) :
    (∃ l, control c = ['\\', l] ∧ l ≠ 'u' ∧ letter? l = some c) ∨
      control c
        = ['\\', 'u', '0', '0', Nat.digitChar (c.toNat / 16), Nat.digitChar (c.toNat % 16)] := by
  unfold control
  split_ifs with hb ht hn hf hr
  · exact .inl ⟨'b', rfl, by decide, hb ▸ rfl⟩
  · exact .inl ⟨'t', rfl, by decide, ht ▸ rfl⟩
  · exact .inl ⟨'n', rfl, by decide, hn ▸ rfl⟩
  · exact .inl ⟨'f', rfl, by decide, hf ▸ rfl⟩
  · exact .inl ⟨'r', rfl, by decide, hr ▸ rfl⟩
  · exact .inr rfl

/-- A written character is found as one piece, and the piece stands for it. -/
theorem exists_piece (c : Char) : ∃ p : Piece,
    (∀ cs, pieces (writeChar c ++ cs) = (p :: (pieces cs).1, (pieces cs).2)) ∧
      ∀ fault ps, join fault (p :: ps) = (join fault ps).map (c :: ·) := by
  by_cases hmark : c = '"' ∨ c = '\\'
  · refine ⟨.char c, fun cs => ?_, fun _ _ => rfl⟩
    have hu : c ≠ 'u' := by
      rintro rfl
      simp at hmark
    have hletter : letter? c = some c := by
      rw [letter?, if_pos (by tauto)]
    rw [writeChar, if_pos hmark]
    exact pieces_letter hu hletter cs
  by_cases hcontrol : c < ' '
  · have hwrite : writeChar c = control c := by rw [writeChar, if_neg hmark, if_pos hcontrol]
    have hnat : c.toNat < 32 := hcontrol
    rw [hwrite]
    rcases control_cases c with ⟨l, hl, hu, hletter⟩ | hunit
    · rw [hl]
      exact ⟨.char c, pieces_letter hu hletter, fun _ _ => rfl⟩
    · rw [hunit]
      refine ⟨.unit c.toNat, pieces_unit (hexValue4?_control (by omega)), fun fault ps => ?_⟩
      rw [join_unit fault ps (by omega), Char.ofNat_toNat]
  · refine ⟨.char c, fun cs => ?_, fun _ _ => rfl⟩
    rw [writeChar, if_neg hmark, if_neg hcontrol]
    exact pieces_plain (fun h => hmark (.inl h)) (fun h => hmark (.inr h)) hcontrol cs

/-- The pieces of written characters make up these characters. -/
theorem exists_pieces (cs rest : List Char) :
    ∃ ps, pieces (cs.flatMap writeChar ++ '"' :: rest) = (ps, .ok rest) ∧
      join none ps = .ok cs := by
  induction cs with
  | nil => exact ⟨[], rfl, rfl⟩
  | cons c cs ih =>
    obtain ⟨ps, hps, hcs⟩ := ih
    obtain ⟨p, hp, hc⟩ := exists_piece c
    refine ⟨p :: ps, ?_, ?_⟩
    · rw [List.flatMap_cons, List.append_assoc, hp, hps]
    · rw [hc, hcs]
      rfl

theorem write_append (s : String) (rest : List Char) :
    write s ++ rest = '"' :: (s.toList.flatMap writeChar ++ '"' :: rest) := by
  simp [write]

/-- A written string is found behind its opening mark. -/
theorem scan_body (s : String) (rest : List Char) :
    scan (s.toList.flatMap writeChar ++ '"' :: rest) = (.ok s, some rest) := by
  obtain ⟨ps, hps, hjoin⟩ := exists_pieces s.toList rest
  have hread : (join none ps).map String.ofList = .ok s := by
    rw [hjoin]
    exact congrArg Except.ok String.ofList_toList
  rw [scan, hps]
  show ((⟨(join none ps).map String.ofList, .ok ()⟩, some rest) : Scanned String × _) = _
  rw [hread]
  rfl

end Escape

/-! ### Numbers -/

theorem span_eq_iff {p : Char → Bool} {cs ds rest : List Char} :
    cs.span p = (ds, rest) ↔
      cs = ds ++ rest ∧ (∀ c ∈ ds, p c = true) ∧ ∀ c ∈ rest.head?, p c = false := by
  rw [List.span_eq_takeWhile_dropWhile, Prod.mk.injEq]
  constructor
  · rintro ⟨rfl, rfl⟩
    refine ⟨List.takeWhile_append_dropWhile.symm, fun c => List.mem_takeWhile_imp, fun c hc => ?_⟩
    have hstop := List.head?_dropWhile_not p cs
    rw [Option.mem_def.1 hc] at hstop
    exact hstop
  · rintro ⟨rfl, hds, hrest⟩
    have hstop : rest.takeWhile p = [] ∧ rest.dropWhile p = rest := by
      cases rest with
      | nil => exact ⟨rfl, rfl⟩
      | cons c rest => simp [hrest c rfl]
    rw [List.takeWhile_append_of_pos hds, List.dropWhile_append_of_pos hds, hstop.1, hstop.2,
      List.append_nil]
    exact ⟨rfl, rfl⟩

/-- Whether a text is over, or goes on with a mark that ends a value. -/
def Delimited (cs : List Char) : Prop := ∀ c ∈ cs.head?, c = ',' ∨ c = ']' ∨ c = '\x7d'

theorem delimited_nil : Delimited [] := by simp [Delimited]

theorem delimited_cons {c : Char} (hc : c = ',' ∨ c = ']' ∨ c = '\x7d') (cs : List Char) :
    Delimited (c :: cs) := by
  simpa [Delimited] using hc

namespace Numeral

/-- The numeral of a whole number. -/
def ofInt (n : Int) : Numeral := ⟨decide (n < 0), Nat.toDigits 10 n.natAbs, none, none⟩

theorem span_toDigits (n : Nat) {rest : List Char} (hrest : Delimited rest) :
    (Nat.toDigits 10 n ++ rest).span Char.isDigit = (Nat.toDigits 10 n, rest) := by
  have hdigits : ∀ c ∈ Nat.toDigits 10 n, c.isDigit = true := fun c hc =>
    Nat.isDigit_of_mem_toDigits (by decide) (by decide) hc
  refine span_eq_iff.2 ⟨rfl, hdigits, fun c hc => ?_⟩
  rcases hrest c hc with rfl | rfl | rfl <;> rfl

theorem scanDigits_eq_ok_iff {cs ds rest : List Char} :
    scanDigits cs = .ok (ds, rest) ↔ ds ≠ [] ∧ cs.span Char.isDigit = (ds, rest) := by
  rw [scanDigits]
  generalize cs.span Char.isDigit = p
  obtain ⟨_ | ⟨d, ds'⟩, rest'⟩ := p
  · cases rest' <;> simp +contextual [eq_comm]
  · simp only [Except.ok.injEq, Prod.mk.injEq, ne_eq, iff_and_self, and_imp]
    rintro rfl -
    exact List.cons_ne_nil _ _

theorem scanDigits_toDigits (n : Nat) {rest : List Char} (hrest : Delimited rest) :
    scanDigits (Nat.toDigits 10 n ++ rest) = .ok (Nat.toDigits 10 n, rest) :=
  scanDigits_eq_ok_iff.2 ⟨Nat.toDigits_ne_nil, span_toDigits n hrest⟩

theorem scanWhole_toDigits (n : Nat) {rest : List Char} (hrest : Delimited rest) :
    scanWhole (Nat.toDigits 10 n ++ rest) = .ok (Nat.toDigits 10 n, rest) := by
  refine bind_eq_ok_iff.2 ⟨_, scanDigits_toDigits n hrest, ?_⟩
  split
  · rename_i c cs _ h
    have hdigits : Nat.toDigits 10 n = '0' :: c :: cs := congrArg Prod.fst h
    by_cases hn : n = 0
    · rw [hn, Nat.toDigits_zero] at hdigits
      cases hdigits
    · exact absurd (by rw [hdigits]; rfl) (head?_toDigits_ne_zero hn)
  · rfl

theorem scanFraction_delimited {rest : List Char} (hrest : Delimited rest) :
    scanFraction rest = .ok (none, rest) := by
  cases rest with
  | nil => rfl
  | cons c rest => rcases hrest c rfl with rfl | rfl | rfl <;> rfl

theorem scanExponent_delimited {rest : List Char} (hrest : Delimited rest) :
    scanExponent rest = .ok (none, rest) := by
  cases rest with
  | nil => rfl
  | cons c rest => rcases hrest c rfl with rfl | rfl | rfl <;> rfl

/-- The numeral behind its sign. -/
def scanMagnitude (negative : Bool) (cs : List Char) : Except Fault (Numeral × List Char) := do
  let (whole, cs) ← scanWhole cs
  let (fraction, cs) ← scanFraction cs
  let (exponent, cs) ← scanExponent cs
  .ok (⟨negative, whole, fraction, exponent⟩, cs)

theorem scan_minus (cs : List Char) : scan ('-' :: cs) = scanMagnitude true cs := rfl

theorem scan_of_head {c : Char} (hc : c ≠ '-') (tail : List Char) :
    scan (c :: tail) = scanMagnitude false (c :: tail) := by
  rw [scan]
  · rfl
  · rintro _ h
    cases h
    exact hc rfl

theorem scanMagnitude_toDigits (negative : Bool) (n : Nat) {rest : List Char}
    (hrest : Delimited rest) :
    scanMagnitude negative (Nat.toDigits 10 n ++ rest)
      = .ok (⟨negative, Nat.toDigits 10 n, none, none⟩, rest) := by
  simp only [scanMagnitude, bind_eq_ok_iff]
  refine ⟨_, scanWhole_toDigits n hrest, _, scanFraction_delimited hrest, _,
    scanExponent_delimited hrest, rfl⟩

/-- A number's digits are not empty. -/
theorem exists_toDigits (n : Nat) : ∃ c cs, Nat.toDigits 10 n = c :: cs ∧ c.isDigit = true := by
  cases h : Nat.toDigits 10 n with
  | nil => exact absurd h Nat.toDigits_ne_nil
  | cons c cs =>
    exact ⟨c, cs, rfl, Nat.isDigit_of_mem_toDigits (by decide) (by decide) (h ▸ List.mem_cons_self)⟩

/-- A written whole number is found as the numeral of its digits. -/
theorem scan_writeNumber (n : Int) {rest : List Char} (hrest : Delimited rest) :
    scan (Json.writeNumber n ++ rest) = .ok (ofInt n, rest) := by
  have hscan := fun negative => scanMagnitude_toDigits negative n.natAbs hrest
  rw [Json.writeNumber, ofInt]
  by_cases hn : n < 0
  · rw [if_pos hn, decide_eq_true hn, List.cons_append, scan_minus]
    exact hscan true
  · obtain ⟨c, cs, hdigits, hc⟩ := exists_toDigits n.natAbs
    rw [if_neg hn, decide_eq_false hn, ← hscan false, hdigits, List.cons_append,
      scan_of_head (by rintro rfl; cases hc)]

end Numeral

/-- What a written whole number is found as. -/
def Number.ofWritten (n : Int) : Scanned Number :=
  ⟨(Numeral.ofInt n).number?.elim (.error .malformed) .ok, .ok ()⟩

theorem Number.scan_writeNumber (n : Int) {rest : List Char} (hrest : Delimited rest) :
    scan (Json.writeNumber n ++ rest) = (ofWritten n, some rest) := by
  rw [scan, Numeral.scan_writeNumber n hrest]
  rfl

/-- A number of 64 bits is found as itself. -/
theorem Number.read_ofWritten {n : Nat} (hn : n < 2 ^ 64) :
    (ofWritten n).read = .ok (.unsigned n) := by
  have hstep : ∀ m d cs, d < 10 → m * 10 + d ≤ Numeral.maxSignificand →
      Numeral.significand m (d.digitChar :: cs) = Numeral.significand (m * 10 + d) cs := by
    intro m d cs hd hm
    have hvalue : d.digitChar.toNat - '0'.toNat = d := Nat.toNat_digitChar_sub_48_of_lt_ten hd
    rw [Numeral.significand, hvalue]
    exact if_pos hm
  have hsignificand := read_toDigits (by decide) hstep (Nat.le_sub_one_of_lt hn) []
  rw [List.append_nil] at hsignificand
  have hnumber : (Numeral.ofInt n).number? = some (.unsigned n) := by
    have hsign : decide ((n : Int) < 0) = false := by simp
    rw [Numeral.number?, Numeral.ofInt, Int.natAbs_natCast, hsignificand, hsign]
    rfl
  rw [ofWritten, hnumber]
  rfl

end NonceAllocation
