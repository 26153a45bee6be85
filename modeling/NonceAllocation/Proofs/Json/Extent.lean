import NonceAllocation.Proofs.Json.Token

namespace NonceAllocation

/-!
# Extents — which part of a text a scan goes by

A scan stops where it knows that a value is over, and has looked at one more character at most.  So
what it found stays the same with any other rest of the text that begins alike.

* `Settled` — what holds of a text and its rest whatever the rest is, as long as it begins alike;
* `settled_skipBlanks` — blanks;
* `Escape.Spells`, `Escape.exists_spells` — a string is found for the text up to its closing mark;
* `Numeral.settled_scan`, `Number.settled_scan` — numbers, the only values without an end of their
  own;
* `Document.scanName_eq_some_iff` — the three words.
-/

/-- Whether what holds of a text and its rest is settled by the part in front of the rest: it holds
    with every other rest that begins alike. -/
def Settled (holds : List Char → List Char → Prop) (cs rest : List Char) : Prop :=
  ∃ front, cs = front ++ rest ∧
    ∀ rest', rest'.head? = rest.head? → holds (front ++ rest') rest'

namespace Settled

variable {A B C : List Char → List Char → Prop} {cs mid rest : List Char}

theorem holds (h : Settled A cs rest) : A cs rest := by
  obtain ⟨front, rfl, hall⟩ := h
  exact hall rest rfl

theorem mono (h : Settled A cs rest) (hAB : ∀ x y, A x y → B x y) : Settled B cs rest := by
  obtain ⟨front, hcs, hall⟩ := h
  exact ⟨front, hcs, fun rest' hrest => hAB _ _ (hall rest' hrest)⟩

/-- Where one part is settled and the next one as well, so are both together. -/
theorem trans (hA : Settled A cs mid) (hB : Settled B mid rest)
    (hC : ∀ x y z, A x y → B y z → C x z) : Settled C cs rest := by
  obtain ⟨front, rfl, hfront⟩ := hA
  obtain ⟨middle, rfl, hmiddle⟩ := hB
  refine ⟨front ++ middle, (List.append_assoc ..).symm, fun rest' hrest => ?_⟩
  have hhead : (middle ++ rest').head? = (middle ++ rest).head? := by
    rw [List.head?_append, List.head?_append, hrest]
  rw [List.append_assoc]
  exact hC _ _ _ (hfront _ hhead) (hmiddle _ hrest)

/-- The text begins alike, too. -/
theorem head (h : Settled A cs rest) : Settled (fun x y => A x y ∧ x.head? = cs.head?) cs rest := by
  obtain ⟨front, rfl, hall⟩ := h
  refine ⟨front, rfl, fun rest' hrest => ⟨hall rest' hrest, ?_⟩⟩
  rw [List.head?_append, List.head?_append, hrest]

/-- The part itself stays the same, too. -/
theorem taken (h : Settled A cs rest) :
    Settled (fun x y => A x y ∧ x.take (x.length - y.length) = cs.take (cs.length - rest.length))
      cs rest := by
  have htake : ∀ front rest : List Char,
      (front ++ rest).take ((front ++ rest).length - rest.length) = front := by
    intro front rest
    rw [List.length_append, Nat.add_sub_cancel]
    exact List.take_left
  obtain ⟨front, rfl, hall⟩ := h
  refine ⟨front, rfl, fun rest' hrest => ⟨hall rest' hrest, ?_⟩⟩
  rw [htake, htake]

theorem refl : Settled (fun x y => x = y) cs cs := ⟨[], rfl, fun _ _ => rfl⟩

theorem cons (c : Char) (rest : List Char) : Settled (fun x y => x = c :: y) (c :: rest) rest :=
  ⟨[c], rfl, fun _ _ => rfl⟩

/-- What the next character settles is settled before it is taken. -/
theorem of_head {q : Option Char → Prop} (hcs : q cs.head?) (hA : ∀ x, q x.head? → A x x) :
    Settled A cs cs :=
  ⟨[], rfl, fun rest' hhead => hA rest' (hhead ▸ hcs)⟩

end Settled

/-! ### Blanks -/

section

variable {c : Char} {cs rest : List Char}

theorem skipBlanks_eq_cons_iff :
    Document.skipBlanks cs = c :: rest ↔
      ∃ front, cs = front ++ c :: rest ∧ (∀ b ∈ front, Document.isBlank b = true) ∧
        Document.isBlank c = false := by
  constructor
  · intro h
    have hspan : cs.span Document.isBlank = (cs.takeWhile Document.isBlank, c :: rest) := by
      rw [List.span_eq_takeWhile_dropWhile, ← h]
      rfl
    obtain ⟨hcs, hfront, hc⟩ := span_eq_iff.1 hspan
    exact ⟨_, hcs, hfront, hc c rfl⟩
  · rintro ⟨front, rfl, hfront, hc⟩
    rw [Document.skipBlanks, List.dropWhile_append_of_pos hfront,
      List.dropWhile_cons_of_neg (by simp [hc])]

/-- Blanks and the character behind them. -/
theorem settled_skipBlanks (h : Document.skipBlanks cs = c :: rest) :
    Settled (fun x y => Document.skipBlanks x = c :: y) cs rest := by
  obtain ⟨front, rfl, hfront, hc⟩ := skipBlanks_eq_cons_iff.1 h
  refine ⟨front ++ [c], by simp, fun rest' _ => ?_⟩
  exact skipBlanks_eq_cons_iff.2 ⟨front, by simp, hfront, hc⟩

/-- Blanks up to a character. -/
theorem settled_skipBlanks_self (h : Document.skipBlanks cs = c :: rest) :
    Settled (fun x y => Document.skipBlanks x = y ∧ y.head? = some c) cs (c :: rest) := by
  obtain ⟨front, rfl, hfront, hc⟩ := skipBlanks_eq_cons_iff.1 h
  refine ⟨front, rfl, fun rest' hhead => ?_⟩
  obtain ⟨tail, rfl⟩ := List.head?_eq_some_iff.1 hhead
  exact ⟨skipBlanks_eq_cons_iff.2 ⟨front, rfl, hfront, hc⟩, rfl⟩

end

/-! ### Strings -/

namespace Escape

variable {cs rest front tail : List Char} {p : Piece} {ps : List Piece} {k : Scanned String}

/-- Whether a text, its closing mark at the end, holds the pieces, whatever follows it. -/
def Holds (front : List Char) (ps : List Piece) : Prop :=
  front ≠ [] ∧ ∀ rest, pieces (front ++ rest) = (ps, .ok rest)

/-- One piece more, in front of others. -/
theorem exists_holds_of_unit (unit : List Char)
    (hunit : ∀ cs, pieces (unit ++ cs) = (p :: (pieces cs).1, (pieces cs).2))
    (htail : ∀ ps, pieces tail = (ps, .ok rest) → ∃ front, tail = front ++ rest ∧ Holds front ps)
    (h : pieces (unit ++ tail) = (ps, .ok rest)) :
    ∃ front, unit ++ tail = front ++ rest ∧ Holds front ps := by
  rw [hunit, Prod.mk.injEq] at h
  obtain ⟨rfl, hrest⟩ := h
  obtain ⟨front, rfl, hne, hfront⟩ := htail _ (Prod.ext rfl hrest)
  refine ⟨unit ++ front, (List.append_assoc ..).symm, by simp [hne], fun rest' => ?_⟩
  rw [List.append_assoc, hunit, hfront, hfront]

/-- The pieces up to a closing mark are found for the text up to there. -/
theorem exists_holds (h : pieces cs = (ps, .ok rest)) :
    ∃ front, cs = front ++ rest ∧ Holds front ps := by
  induction cs using pieces.induct generalizing ps with
  | case1 => simp [pieces] at h
  | case2 rest' =>
    rw [pieces] at h
    cases h
    exact ⟨['"'], rfl, List.cons_ne_nil _ _, fun _ => by rw [List.singleton_append, pieces]⟩
  | case3 a b c d tail n hn ps' e hpieces ih =>
    exact exists_holds_of_unit ['\\', 'u', a, b, c, d] (pieces_unit hn) (fun _ => ih) h
  | case4 a b c d tail hn => simp [pieces, hn] at h
  | case5 tail hfew =>
    rw [pieces] at h
    · simp at h
    · exact hfew
  | case6 c tail _ hu d hd ps' e hpieces ih =>
    exact exists_holds_of_unit ['\\', c] (pieces_letter hu hd) (fun _ => ih) h
  | case7 c tail hshort hu hd =>
    rw [pieces, hd] at h
    · simp at h
    · exact hshort
    · exact hu
  | case8 => simp [pieces] at h
  | case9 c tail hmark hunit hshort hletter hlast hcontrol =>
    rw [pieces, if_pos hcontrol] at h
    · simp at h
    all_goals assumption
  | case10 c tail hmark hunit hshort hletter hlast hplain ps' e hpieces ih =>
    have hback : c ≠ '\\' := by
      rintro rfl
      cases tail with
      | nil => exact hlast rfl rfl
      | cons d tail => exact hletter d tail rfl rfl
    exact exists_holds_of_unit [c] (pieces_plain hmark hback hplain) (fun _ => ih) h

/-- Whether a text is a string with its marks, found as `k` whatever follows it. -/
def Spells (cs : List Char) (k : Scanned String) : Prop :=
  ∃ body, cs = '"' :: body ∧ body ≠ [] ∧ ∀ rest, scan (body ++ rest) = (k, some rest)

/-- A string is found for the text up to its closing mark. -/
theorem exists_spells (h : scan cs = (k, some rest)) :
    ∃ body, cs = body ++ rest ∧ Spells ('"' :: body) k := by
  rw [scan] at h
  split at h
  · rename_i ps rest' hpieces
    cases h
    obtain ⟨body, rfl, hne, hbody⟩ := exists_holds hpieces
    refine ⟨body, rfl, body, rfl, hne, fun rest => ?_⟩
    rw [scan, hbody]
  · cases h

theorem spells_write (s : String) : Spells (write s) (.ok s) := by
  refine ⟨s.toList.flatMap writeChar ++ ['"'], by simp [write], by simp, fun rest => ?_⟩
  rw [List.append_assoc, List.singleton_append, scan_body]

theorem settled_scan (h : scan cs = (k, some rest)) :
    Settled (fun x y => y.length < x.length ∧ scan x = (k, some y)) cs rest := by
  obtain ⟨body, rfl, body', heq, hne, hbody⟩ := exists_spells h
  cases heq
  refine ⟨body, rfl, fun rest' _ => ⟨?_, hbody rest'⟩⟩
  rw [List.length_append]
  exact Nat.lt_add_of_pos_left (List.length_pos_iff.2 hne)

end Escape

/-! ### Numbers -/

namespace Numeral

variable {cs rest ds : List Char} {n : Numeral} {negative : Bool} {fraction : Option (List Char)}
  {exponent : Option (Bool × List Char)}

theorem settled_scanDigits (h : scanDigits cs = .ok (ds, rest)) :
    Settled (fun x y => y.length < x.length ∧ scanDigits x = .ok (ds, y)) cs rest := by
  obtain ⟨hne, hspan⟩ := scanDigits_eq_ok_iff.1 h
  obtain ⟨rfl, hds, hrest⟩ := span_eq_iff.1 hspan
  refine ⟨ds, rfl, fun rest' hhead => ⟨?_, ?_⟩⟩
  · rw [List.length_append]
    exact Nat.lt_add_of_pos_left (List.length_pos_iff.2 hne)
  · exact scanDigits_eq_ok_iff.2 ⟨hne, span_eq_iff.2 ⟨rfl, hds, hhead ▸ hrest⟩⟩

theorem settled_scanWhole (h : scanWhole cs = .ok (ds, rest)) :
    Settled (fun x y => y.length < x.length ∧ scanWhole x = .ok (ds, y)) cs rest := by
  obtain ⟨p, hdigits, hp⟩ := bind_eq_ok_iff.1 h
  have hdigits' : p = (ds, rest) := by
    split at hp <;> cases hp
    rfl
  subst hdigits'
  refine (settled_scanDigits hdigits).mono ?_
  rintro x y ⟨hlength, hxy⟩
  refine ⟨hlength, bind_eq_ok_iff.2 ⟨_, hxy, ?_⟩⟩
  -- Whether the digits are refused does not depend on the rest.
  split at hp
  · cases hp
  · rename_i hzero
    split
    · rename_i d ds' _ heq
      cases heq
      exact absurd rfl (hzero d ds' rest)
    · rfl

theorem settled_scanFraction (h : scanFraction cs = .ok (fraction, rest)) :
    Settled (fun x y => y.length ≤ x.length ∧ scanFraction x = .ok (fraction, y)) cs rest := by
  unfold scanFraction at h
  split at h
  · rename_i tail
    obtain ⟨⟨ds, rest'⟩, hdigits, heq⟩ := map_eq_ok_iff.1 h
    cases heq
    refine (Settled.cons '.' tail).trans (settled_scanDigits hdigits) ?_
    rintro _ y z rfl ⟨hlength, hyz⟩
    refine ⟨(hlength.trans (Nat.lt_succ_self _)).le, map_eq_ok_iff.2 ⟨_, hyz, rfl⟩⟩
  · rename_i hpoint
    cases h
    refine Settled.of_head (q := fun c => c ≠ some '.') ?_ fun x hx => ⟨le_rfl, ?_⟩
    · intro hhead
      obtain ⟨tail, rfl⟩ := List.head?_eq_some_iff.1 hhead
      exact hpoint tail rfl
    · rw [scanFraction]
      rintro tail rfl
      exact hx rfl

theorem settled_scanSign {minus : Bool} (h : scanSign cs = (minus, rest)) :
    Settled (fun x y => y.length ≤ x.length ∧ scanSign x = (minus, y)) cs rest := by
  unfold scanSign at h
  split at h
  · cases h
    refine (Settled.cons '+' _).mono ?_
    rintro _ y rfl
    exact ⟨Nat.le_succ _, rfl⟩
  · cases h
    refine (Settled.cons '-' _).mono ?_
    rintro _ y rfl
    exact ⟨Nat.le_succ _, rfl⟩
  · rename_i hplus hminus
    cases h
    refine Settled.of_head (q := fun c => c ≠ some '+' ∧ c ≠ some '-') ⟨?_, ?_⟩ fun x hx =>
      ⟨le_rfl, ?_⟩
    · intro hhead
      obtain ⟨tail, rfl⟩ := List.head?_eq_some_iff.1 hhead
      exact hplus tail rfl
    · intro hhead
      obtain ⟨tail, rfl⟩ := List.head?_eq_some_iff.1 hhead
      exact hminus tail rfl
    · rw [scanSign]
      · rintro tail rfl
        exact hx.1 rfl
      · rintro tail rfl
        exact hx.2 rfl

theorem settled_scanExponent (h : scanExponent cs = .ok (exponent, rest)) :
    Settled (fun x y => y.length ≤ x.length ∧ scanExponent x = .ok (exponent, y)) cs rest := by
  cases cs with
  | nil =>
    cases h
    refine Settled.of_head (q := fun c => c = none) rfl fun x hx => ?_
    obtain rfl := List.head?_eq_none_iff.1 hx
    exact ⟨le_rfl, rfl⟩
  | cons c tail =>
    rw [scanExponent] at h
    by_cases hc : c = 'e' ∨ c = 'E'
    · rw [if_pos hc] at h
      obtain ⟨⟨ds, rest'⟩, hdigits, heq⟩ := map_eq_ok_iff.1 h
      cases heq
      have hsign := (Settled.cons c tail).trans (settled_scanSign rfl) (C := fun x z =>
          ∃ y, x = c :: y ∧ z.length ≤ y.length ∧ scanSign y = ((scanSign tail).1, z))
        fun x y z hxy hyz => ⟨y, hxy, hyz⟩
      refine hsign.trans (settled_scanDigits hdigits) ?_
      rintro _ z w ⟨y, rfl, hzy, hsign⟩ ⟨hwz, hdigits⟩
      refine ⟨(hwz.trans_le (hzy.trans (Nat.le_succ _))).le, ?_⟩
      rw [scanExponent, if_pos hc, hsign]
      exact map_eq_ok_iff.2 ⟨_, hdigits, rfl⟩
    · rw [if_neg hc] at h
      cases h
      refine Settled.of_head (q := fun d => d = some c) rfl fun x hx => ?_
      obtain ⟨tail', rfl⟩ := List.head?_eq_some_iff.1 hx
      exact ⟨le_rfl, by rw [scanExponent, if_neg hc]⟩

theorem settled_scanMagnitude (h : scanMagnitude negative cs = .ok (n, rest)) :
    Settled (fun x y => y.length < x.length ∧ scanMagnitude negative x = .ok (n, y)) cs rest := by
  obtain ⟨⟨whole, cs₁⟩, hwhole, h⟩ := bind_eq_ok_iff.1 h
  obtain ⟨⟨fraction, cs₂⟩, hfraction, h⟩ := bind_eq_ok_iff.1 h
  obtain ⟨⟨exponent, cs₃⟩, hexponent, h⟩ := bind_eq_ok_iff.1 h
  cases h
  refine (settled_scanWhole hwhole).trans ((settled_scanFraction hfraction).trans
    (settled_scanExponent hexponent) (C := fun x z => z.length ≤ x.length ∧ ∃ y,
      scanFraction x = .ok (fraction, y) ∧ scanExponent y = .ok (exponent, z)) ?_) ?_
  · rintro x y z ⟨hxy, hfraction⟩ ⟨hyz, hexponent⟩
    exact ⟨hyz.trans hxy, y, hfraction, hexponent⟩
  · rintro w x z ⟨hwx, hwhole⟩ ⟨hxz, y, hfraction, hexponent⟩
    refine ⟨hxz.trans_lt hwx, ?_⟩
    exact bind_eq_ok_iff.2
      ⟨_, hwhole, bind_eq_ok_iff.2 ⟨_, hfraction, bind_eq_ok_iff.2 ⟨_, hexponent, rfl⟩⟩⟩

theorem settled_scan (h : scan cs = .ok (n, rest)) :
    Settled (fun x y => y.length < x.length ∧ scan x = .ok (n, y)) cs rest := by
  cases cs with
  | nil => cases h
  | cons c tail =>
    by_cases hc : c = '-'
    · subst hc
      rw [scan_minus] at h
      refine (Settled.cons '-' tail).trans (settled_scanMagnitude h) ?_
      rintro _ y z rfl ⟨hlength, hyz⟩
      exact ⟨hlength.trans (Nat.lt_succ_self _), hyz⟩
    · rw [scan_of_head hc] at h
      refine (settled_scanMagnitude h).head.mono ?_
      rintro x y ⟨⟨hlength, hxy⟩, hhead⟩
      obtain ⟨tail', rfl⟩ := List.head?_eq_some_iff.1 hhead
      exact ⟨hlength, (scan_of_head hc _).trans hxy⟩

end Numeral

theorem Number.settled_scan {cs rest : List Char} {n : Scanned Number}
    (h : scan cs = (n, some rest)) :
    Settled (fun x y => y.length < x.length ∧ scan x = (n, some y)) cs rest := by
  rw [scan] at h
  split at h
  · cases h
  · rename_i m rest' hscan
    cases h
    refine (Numeral.settled_scan hscan).mono ?_
    rintro x y ⟨hlength, hxy⟩
    refine ⟨hlength, ?_⟩
    rw [scan, hxy]

/-! ### Words -/

namespace Document

variable {value d : Document} {tail cs rest : List Char}

theorem scanWord_eq_ok_iff : scanWord tail cs = .ok rest ↔ cs = tail ++ rest := by
  induction tail generalizing cs with
  | nil =>
    rw [scanWord, Except.ok.injEq]
    rfl
  | cons e es ih =>
    cases cs with
    | nil => simp [scanWord]
    | cons c cs =>
      rw [scanWord]
      split
      · rename_i hc
        rw [ih, List.cons_append, List.cons.injEq, and_iff_right hc]
      · rename_i hc
        simp [hc]

theorem scanName_eq_some_iff :
    scanName value tail cs = (d, some rest) ↔ d = value ∧ cs = tail ++ rest := by
  rw [scanName, ← scanWord_eq_ok_iff]
  cases scanWord tail cs <;> simp [eq_comm]

end Document

end NonceAllocation
