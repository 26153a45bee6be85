import NonceAllocation.Proofs.Json.Extent
import NonceAllocation.Proofs.Json.Written

namespace NonceAllocation

/-!
# The scan of a document — its steps, and what they depend on

* `Document.scanValue_eq_some_iff` and its companions — what a step finds, by what the steps that it
  takes find;
* `Document.Finds` — what a scan finds at the start of a text, given three steps for each character;
* `Document.Leads` and the lemmas on it — how a step leads to the next one, whatever is found there;
* `Document.settled_value` — a value that is found is settled by the text up to its end;
* `Document.finds_iff` — so that the fuel of a scan does not matter.
-/

namespace Document

/-! ### What a step finds -/

/-- The word that begins with a letter, behind this letter, and the value that it stands for. -/
def word? : Char → Option (Document × List Char)
  | 'n' => some (.null, ['u', 'l', 'l'])
  | 't' => some (.bool true, ['r', 'u', 'e'])
  | 'f' => some (.bool false, ['a', 'l', 's', 'e'])
  | _ => none

/-- Which value is found behind its first character. -/
inductive Begins (fuel : Nat) : Char → List Char → Document → List Char → Prop where
  | string {k cs rest} (h : Escape.scan cs = (k, some rest)) : Begins fuel '"' cs (.string k) rest
  | array {is cs rest} (h : scanItems fuel cs = (is, some rest)) :
    Begins fuel '[' cs (.array is) rest
  | object {ms cs rest} (h : scanMembers fuel cs = (ms, some rest)) :
    Begins fuel '\x7b' cs (.object ms) rest
  | word {c d word rest} (h : word? c = some (d, word)) : Begins fuel c (word ++ rest) d rest
  | number {c n cs rest} (hc : c = '-' ∨ c.isDigit = true)
    (h : Number.scan (c :: cs) = (n, some rest)) : Begins fuel c cs (.number n) rest

variable {fuel : Nat} {c : Char} {cs rest x y z : List Char} {d : Document} {is : Items}
  {ms : Members} {k : Scanned String} {n : Scanned Number}

theorem scanValue_eq_some_iff :
    scanValue (fuel + 1) cs = (d, some rest) ↔
      ∃ c tail, skipBlanks cs = c :: tail ∧ Begins fuel c tail d rest := by
  constructor
  · intro h
    rw [scanValue] at h
    split at h
    · cases h
    · rename_i tail hblanks
      cases hscan : Escape.scan tail
      rw [hscan] at h
      cases h
      exact ⟨_, _, hblanks, .string hscan⟩
    · rename_i tail hblanks
      cases hscan : scanItems fuel tail
      rw [hscan] at h
      cases h
      exact ⟨_, _, hblanks, .array hscan⟩
    · rename_i tail hblanks
      cases hscan : scanMembers fuel tail
      rw [hscan] at h
      cases h
      exact ⟨_, _, hblanks, .object hscan⟩
    · rename_i hblanks
      obtain ⟨rfl, rfl⟩ := scanName_eq_some_iff.1 h
      exact ⟨_, _, hblanks, .word rfl⟩
    · rename_i hblanks
      obtain ⟨rfl, rfl⟩ := scanName_eq_some_iff.1 h
      exact ⟨_, _, hblanks, .word rfl⟩
    · rename_i hblanks
      obtain ⟨rfl, rfl⟩ := scanName_eq_some_iff.1 h
      exact ⟨_, _, hblanks, .word rfl⟩
    · rename_i c tail _ _ _ _ _ _ hblanks
      split at h
      · rename_i hc
        cases hscan : Number.scan (c :: tail)
        rw [hscan] at h
        cases h
        exact ⟨_, _, hblanks, .number hc hscan⟩
      · cases h
  · rintro ⟨c, tail, hblanks, hbegins⟩
    rw [scanValue, hblanks]
    cases hbegins with
    | string h => simp only [h]
    | array h => simp only [h]
    | object h => simp only [h]
    | word h =>
      unfold word? at h
      split at h <;> cases h <;> exact scanName_eq_some_iff.2 ⟨rfl, rfl⟩
    | number hc h =>
      have hvalue : scanValue (fuel + 1) (c :: tail) = _ := scanValue_numeral hc
      rw [scanValue, skipBlanks_cons (Json.isBlank_of_numeral hc), h] at hvalue
      exact hvalue

theorem exists_begins (h : scanValue fuel cs = (d, some rest)) :
    ∃ fuel c tail, skipBlanks cs = c :: tail ∧ Begins fuel c tail d rest := by
  cases fuel with
  | zero => cases h
  | succ fuel => exact ⟨fuel, scanValue_eq_some_iff.1 h⟩

theorem exists_scan_of_string (h : scanValue fuel cs = (.string k, some rest)) :
    ∃ tail, skipBlanks cs = '"' :: tail ∧ Escape.scan tail = (k, some rest) := by
  obtain ⟨_, c, tail, hblanks, hbegins⟩ := exists_begins h
  cases hbegins with
  | string h => exact ⟨tail, hblanks, h⟩
  | word h =>
    unfold word? at h
    split at h <;> cases h

theorem exists_scanItems (h : scanValue fuel cs = (.array is, some rest)) :
    ∃ fuel tail, skipBlanks cs = '[' :: tail ∧ scanItems fuel tail = (is, some rest) := by
  obtain ⟨fuel, c, tail, hblanks, hbegins⟩ := exists_begins h
  cases hbegins with
  | array h => exact ⟨fuel, tail, hblanks, h⟩
  | word h =>
    unfold word? at h
    split at h <;> cases h

theorem exists_scanMembers (h : scanValue fuel cs = (.object ms, some rest)) :
    ∃ fuel tail, skipBlanks cs = '\x7b' :: tail ∧ scanMembers fuel tail = (ms, some rest) := by
  obtain ⟨fuel, c, tail, hblanks, hbegins⟩ := exists_begins h
  cases hbegins with
  | object h => exact ⟨fuel, tail, hblanks, h⟩
  | word h =>
    unfold word? at h
    split at h <;> cases h

theorem scanItem_eq_some_iff :
    scanItem (fuel + 1) cs = (is, some rest) ↔
      ∃ v mid is', scanValue fuel cs = (v, some mid) ∧ scanMoreItems fuel mid = (is', some rest) ∧
        is = .more v is' := by
  rw [scanItem]
  constructor
  · intro h
    split at h
    · cases h
    · rename_i v mid hvalue
      cases hmore : scanMoreItems fuel mid
      rw [hmore] at h
      cases h
      exact ⟨v, mid, _, hvalue, hmore, rfl⟩
  · rintro ⟨v, mid, is', hvalue, hmore, rfl⟩
    simp only [hvalue, hmore]

theorem scanItems_eq_some_iff :
    scanItems (fuel + 1) cs = (is, some rest) ↔
      skipBlanks cs = ']' :: rest ∧ is = .done .closed ∨
        ∃ c tail, skipBlanks cs = c :: tail ∧ c ≠ ']' ∧
          scanItem fuel (c :: tail) = (is, some rest) := by
  rw [scanItems]
  cases skipBlanks cs with
  | nil => simp
  | cons c tail =>
    by_cases hc : c = ']'
    · subst hc
      simp [eq_comm, and_comm]
    · simp [hc]

theorem scanMoreItems_eq_some_iff :
    scanMoreItems (fuel + 1) cs = (is, some rest) ↔
      skipBlanks cs = ']' :: rest ∧ is = .done .closed ∨
        ∃ cs', skipBlanks cs = ',' :: cs' ∧
          (skipBlanks cs' = ']' :: rest ∧ is = .done (.comma .malformed) ∨
            ∃ c tail, skipBlanks cs' = c :: tail ∧ c ≠ ']' ∧
              scanItem fuel (c :: tail) = (is, some rest)) := by
  rw [scanMoreItems]
  cases skipBlanks cs with
  | nil => simp
  | cons c tail =>
    by_cases hclose : c = ']'
    · subst hclose
      simp [eq_comm, and_comm]
    by_cases hcomma : c = ','
    · subst hcomma
      cases hblanks : skipBlanks tail with
      | nil => simp [hblanks]
      | cons c' tail' =>
        by_cases hc : c' = ']'
        · subst hc
          simp [hblanks, eq_comm, and_comm]
        · simp [hblanks, hc]
    · simp [hclose, hcomma]

/-- A member's value, with the text that its scan has taken. -/
theorem scanMember_eq_some_iff :
    scanMember (fuel + 1) cs = (ms, some rest) ↔
      ∃ key cs₁ cs₂ v mid ms', Escape.scan cs = (key, some cs₁) ∧ skipBlanks cs₁ = ':' :: cs₂ ∧
        scanValue fuel (skipBlanks cs₂) = (v, some mid) ∧
        scanMoreMembers fuel mid = (ms', some rest) ∧
        ms = .more key v
          (String.ofList ((skipBlanks cs₂).take ((skipBlanks cs₂).length - mid.length))) ms' := by
  rw [scanMember]
  constructor
  · intro h
    split at h
    · cases h
    · rename_i key cs₁ hkey
      split at h
      · cases h
      · rename_i cs₂ hcolon
        dsimp only at h
        split at h
        · cases h
        · rename_i v mid hvalue
          cases hmore : scanMoreMembers fuel mid
          rw [hmore] at h
          cases h
          exact ⟨key, cs₁, cs₂, v, mid, _, hkey, hcolon, hvalue, hmore, rfl⟩
      · cases h
  · rintro ⟨key, cs₁, cs₂, v, mid, ms', hkey, hcolon, hvalue, hmore, rfl⟩
    simp only [hkey, hcolon, hvalue, hmore]

theorem scanMembers_eq_some_iff :
    scanMembers (fuel + 1) cs = (ms, some rest) ↔
      skipBlanks cs = '\x7d' :: rest ∧ ms = .done .closed ∨
        ∃ tail, skipBlanks cs = '"' :: tail ∧ scanMember fuel tail = (ms, some rest) := by
  rw [scanMembers]
  cases skipBlanks cs with
  | nil => simp
  | cons c tail =>
    by_cases hclose : c = '\x7d'
    · subst hclose
      simp [eq_comm, and_comm]
    by_cases hmark : c = '"'
    · subst hmark
      simp
    · simp [hclose, hmark]

theorem scanMoreMembers_eq_some_iff :
    scanMoreMembers (fuel + 1) cs = (ms, some rest) ↔
      skipBlanks cs = '\x7d' :: rest ∧ ms = .done .closed ∨
        ∃ cs', skipBlanks cs = ',' :: cs' ∧
          (skipBlanks cs' = '\x7d' :: rest ∧ ms = .done (.comma .malformed) ∨
            ∃ tail, skipBlanks cs' = '"' :: tail ∧ scanMember fuel tail = (ms, some rest)) := by
  rw [scanMoreMembers]
  cases skipBlanks cs with
  | nil => simp
  | cons c tail =>
    by_cases hclose : c = '\x7d'
    · subst hclose
      simp [eq_comm, and_comm]
    by_cases hcomma : c = ','
    · subst hcomma
      cases hblanks : skipBlanks tail with
      | nil => simp [hblanks]
      | cons c' tail' =>
        by_cases hc : c' = '\x7d'
        · subst hc
          simp [hblanks, eq_comm, and_comm]
        by_cases hmark : c' = '"'
        · subst hmark
          simp [hblanks]
        · simp [hblanks, hc, hmark]
    · simp [hclose, hcomma]

/-! ### What a scan finds -/

section

variable {β : Type} {spare : Nat} {b : β}

/-- Whether a scan finds `b` at the start of `x`, with `y` behind it, if its fuel is three steps for
    each character that it takes, less `spare` of them. -/
def Finds (scan : Nat → List Char → β × Option (List Char)) (spare : Nat) (b : β)
    (x y : List Char) : Prop :=
  y.length < x.length ∧
    ∀ fuel, 3 * (x.length - y.length) ≤ fuel + spare → scan fuel x = (b, some y)

/-- A scan that takes a character takes a step. -/
theorem Finds.of_step {scan : Nat → List Char → β × Option (List Char)} (hspare : spare < 3)
    (hlength : y.length < x.length)
    (h : ∀ fuel, 3 * (x.length - y.length) ≤ fuel + spare + 1 → scan (fuel + 1) x = (b, some y)) :
    Finds scan spare b x y := by
  refine ⟨hlength, fun fuel hfuel => ?_⟩
  obtain ⟨fuel, rfl⟩ : ∃ f, fuel = f + 1 := ⟨fuel - 1, by omega⟩
  exact h fuel (by omega)

end

theorem length_lt_of_skipBlanks (h : skipBlanks x = c :: y) : y.length < x.length := by
  have hle := List.length_dropWhile_le isBlank x
  rw [← skipBlanks, h, List.length_cons] at hle
  exact hle

theorem length_le_of_skipBlanks (h : skipBlanks x = y) : y.length ≤ x.length :=
  h ▸ List.length_dropWhile_le isBlank x

namespace Finds

/-- A value that is found in one step. -/
theorem token (hblanks : skipBlanks x = c :: y) (hlength : z.length ≤ y.length)
    (h : ∀ fuel, Begins fuel c y d z) : Finds scanValue 2 d x z := by
  have hlt := length_lt_of_skipBlanks hblanks
  refine of_step (by omega) (by omega) fun fuel _ => ?_
  exact scanValue_eq_some_iff.2 ⟨c, y, hblanks, h fuel⟩

theorem array (hblanks : skipBlanks x = '[' :: y) (h : Finds scanItems 2 is y z) :
    Finds scanValue 2 (.array is) x z := by
  have hlt := length_lt_of_skipBlanks hblanks
  refine of_step (by omega) (h.1.trans hlt) fun fuel hfuel => ?_
  exact scanValue_eq_some_iff.2 ⟨_, y, hblanks, .array (h.2 fuel (by omega))⟩

theorem object (hblanks : skipBlanks x = '\x7b' :: y) (h : Finds scanMembers 2 ms y z) :
    Finds scanValue 2 (.object ms) x z := by
  have hlt := length_lt_of_skipBlanks hblanks
  refine of_step (by omega) (h.1.trans hlt) fun fuel hfuel => ?_
  exact scanValue_eq_some_iff.2 ⟨_, y, hblanks, .object (h.2 fuel (by omega))⟩

theorem itemsEnd (hblanks : skipBlanks x = ']' :: z) :
    Finds scanItems 2 (.done .closed) x z :=
  of_step (by omega) (length_lt_of_skipBlanks hblanks) fun _ _ =>
    scanItems_eq_some_iff.2 (.inl ⟨hblanks, rfl⟩)

theorem items (hblanks : skipBlanks x = y) (hhead : y.head? = some c) (hc : c ≠ ']')
    (h : Finds scanItem 3 is y z) : Finds scanItems 2 is x z := by
  have hle := length_le_of_skipBlanks hblanks
  obtain ⟨tail, rfl⟩ := List.head?_eq_some_iff.1 hhead
  refine of_step (by omega) (h.1.trans_le hle) fun fuel hfuel => ?_
  exact scanItems_eq_some_iff.2 (.inr ⟨c, tail, hblanks, hc, h.2 fuel (by omega)⟩)

theorem item (hvalue : Finds scanValue 2 d x y) (hmore : Finds scanMoreItems 2 is y z) :
    Finds scanItem 3 (.more d is) x z := by
  obtain ⟨hxy, hvalue⟩ := hvalue
  obtain ⟨hyz, hmore⟩ := hmore
  refine ⟨hyz.trans hxy, fun fuel hfuel => ?_⟩
  obtain ⟨fuel, rfl⟩ : ∃ f, fuel = f + 1 := ⟨fuel - 1, by omega⟩
  exact scanItem_eq_some_iff.2 ⟨d, y, is, hvalue fuel (by omega), hmore fuel (by omega), rfl⟩

theorem moreItemsEnd (hblanks : skipBlanks x = ']' :: z) :
    Finds scanMoreItems 2 (.done .closed) x z :=
  of_step (by omega) (length_lt_of_skipBlanks hblanks) fun _ _ =>
    scanMoreItems_eq_some_iff.2 (.inl ⟨hblanks, rfl⟩)

theorem moreItemsComma (hcomma : skipBlanks x = ',' :: y) (hblanks : skipBlanks y = ']' :: z) :
    Finds scanMoreItems 2 (.done (.comma .malformed)) x z :=
  of_step (by omega) ((length_lt_of_skipBlanks hblanks).trans (length_lt_of_skipBlanks hcomma))
    fun _ _ => scanMoreItems_eq_some_iff.2 (.inr ⟨y, hcomma, .inl ⟨hblanks, rfl⟩⟩)

theorem moreItems {w : List Char} (hcomma : skipBlanks x = ',' :: w) (hblanks : skipBlanks w = y)
    (hhead : y.head? = some c) (hc : c ≠ ']') (h : Finds scanItem 3 is y z) :
    Finds scanMoreItems 2 is x z := by
  have hlt := length_lt_of_skipBlanks hcomma
  have hle := length_le_of_skipBlanks hblanks
  obtain ⟨tail, rfl⟩ := List.head?_eq_some_iff.1 hhead
  refine of_step (by omega) (h.1.trans_le (hle.trans hlt.le)) fun fuel hfuel => ?_
  exact scanMoreItems_eq_some_iff.2
    (.inr ⟨w, hcomma, .inr ⟨c, tail, hblanks, hc, h.2 fuel (by omega)⟩⟩)

theorem membersEnd (hblanks : skipBlanks x = '\x7d' :: z) :
    Finds scanMembers 2 (.done .closed) x z :=
  of_step (by omega) (length_lt_of_skipBlanks hblanks) fun _ _ =>
    scanMembers_eq_some_iff.2 (.inl ⟨hblanks, rfl⟩)

theorem members (hblanks : skipBlanks x = '"' :: y) (h : Finds scanMember 2 ms y z) :
    Finds scanMembers 2 ms x z := by
  have hlt := length_lt_of_skipBlanks hblanks
  refine of_step (by omega) (h.1.trans hlt) fun fuel hfuel => ?_
  exact scanMembers_eq_some_iff.2 (.inr ⟨y, hblanks, h.2 fuel (by omega)⟩)

/-- The value of a member begins at `y` and ends before `mid`. -/
theorem member {v w mid : List Char} (hlength : v.length < x.length)
    (hkey : Escape.scan x = (k, some v)) (hcolon : skipBlanks v = ':' :: w)
    (hblanks : skipBlanks w = y) (hvalue : Finds scanValue 2 d y mid)
    (hmore : Finds scanMoreMembers 2 ms mid z) :
    Finds scanMember 2 (.more k d (String.ofList (y.take (y.length - mid.length))) ms) x z := by
  have hlt := length_lt_of_skipBlanks hcolon
  have hle := length_le_of_skipBlanks hblanks
  obtain ⟨hmid, hvalue⟩ := hvalue
  obtain ⟨hz, hmore⟩ := hmore
  subst hblanks
  refine of_step (by omega) (by omega) fun fuel hfuel => ?_
  exact scanMember_eq_some_iff.2 ⟨k, v, w, d, mid, ms, hkey, hcolon, hvalue fuel (by omega),
    hmore fuel (by omega), rfl⟩

theorem moreMembersEnd (hblanks : skipBlanks x = '\x7d' :: z) :
    Finds scanMoreMembers 2 (.done .closed) x z :=
  of_step (by omega) (length_lt_of_skipBlanks hblanks) fun _ _ =>
    scanMoreMembers_eq_some_iff.2 (.inl ⟨hblanks, rfl⟩)

theorem moreMembersComma (hcomma : skipBlanks x = ',' :: y)
    (hblanks : skipBlanks y = '\x7d' :: z) :
    Finds scanMoreMembers 2 (.done (.comma .malformed)) x z :=
  of_step (by omega) ((length_lt_of_skipBlanks hblanks).trans (length_lt_of_skipBlanks hcomma))
    fun _ _ => scanMoreMembers_eq_some_iff.2 (.inr ⟨y, hcomma, .inl ⟨hblanks, rfl⟩⟩)

theorem moreMembers {w : List Char} (hcomma : skipBlanks x = ',' :: w)
    (hblanks : skipBlanks w = '"' :: y) (h : Finds scanMember 2 ms y z) :
    Finds scanMoreMembers 2 ms x z := by
  have hcommaLt := length_lt_of_skipBlanks hcomma
  have hblanksLt := length_lt_of_skipBlanks hblanks
  refine of_step (by omega) (h.1.trans (hblanksLt.trans hcommaLt)) fun fuel hfuel => ?_
  exact scanMoreMembers_eq_some_iff.2 (.inr ⟨w, hcomma, .inr ⟨y, hblanks, h.2 fuel (by omega)⟩⟩)

end Finds

/-! ### Steps that are settled -/

/-- Whether `scan'` goes on with `scan`: what the one finds at `y` is found by the other at `x`, as
    `f` makes it. -/
def Leads {β γ : Type} (scan : Nat → List Char → β × Option (List Char)) (spare : Nat)
    (scan' : Nat → List Char → γ × Option (List Char)) (spare' : Nat) (f : β → γ)
    (x y : List Char) : Prop :=
  ∀ b z, Finds scan spare b y z → Finds scan' spare' (f b) x z

theorem settled_of_leads {β γ : Type} {scan : Nat → List Char → β × Option (List Char)}
    {scan' : Nat → List Char → γ × Option (List Char)} {spare spare' : Nat} {f : β → γ} {b : β}
    (hleads : Settled (Leads scan spare scan' spare' f) cs y)
    (hfinds : Settled (Finds scan spare b) y rest) : Settled (Finds scan' spare' (f b)) cs rest :=
  hleads.trans hfinds fun _ _ z hxy hyz => hxy b z hyz

theorem leads_array (hblanks : skipBlanks cs = '[' :: rest) :
    Settled (Leads scanItems 2 scanValue 2 .array) cs rest :=
  (settled_skipBlanks hblanks).mono fun _ _ hxy _ _ => .array hxy

theorem leads_object (hblanks : skipBlanks cs = '\x7b' :: rest) :
    Settled (Leads scanMembers 2 scanValue 2 .object) cs rest :=
  (settled_skipBlanks hblanks).mono fun _ _ hxy _ _ => .object hxy

theorem leads_items (hblanks : skipBlanks cs = c :: rest) (hc : c ≠ ']') :
    Settled (Leads scanItem 3 scanItems 2 id) cs (c :: rest) :=
  (settled_skipBlanks_self hblanks).mono fun _ _ hxy _ _ => .items hxy.1 hxy.2 hc

theorem leads_item (hvalue : Settled (Finds scanValue 2 d) cs rest) :
    Settled (Leads scanMoreItems 2 scanItem 3 (.more d)) cs rest :=
  hvalue.mono fun _ _ hxy _ _ => .item hxy

theorem leads_moreItems (hcomma : skipBlanks cs = ',' :: y) (hblanks : skipBlanks y = c :: rest)
    (hc : c ≠ ']') : Settled (Leads scanItem 3 scanMoreItems 2 id) cs (c :: rest) :=
  (settled_skipBlanks hcomma).trans (settled_skipBlanks_self hblanks)
    fun _ _ _ hcomma hblanks _ _ => .moreItems hcomma hblanks.1 hblanks.2 hc

theorem leads_members (hblanks : skipBlanks cs = '"' :: rest) :
    Settled (Leads scanMember 2 scanMembers 2 id) cs rest :=
  (settled_skipBlanks hblanks).mono fun _ _ hxy _ _ => .members hxy

/-- Whether the key `k` stands at the start of `x`, and the value behind it begins at `y`. -/
def Key (k : Scanned String) (x y : List Char) : Prop :=
  ∃ v w, v.length < x.length ∧ Escape.scan x = (k, some v) ∧ skipBlanks v = ':' :: w ∧
    skipBlanks w = y

/-- No value begins where the text ends. -/
theorem exists_cons_of_scanValue (h : scanValue fuel cs = (d, some rest)) :
    ∃ c tail, cs = c :: tail := by
  cases cs with
  | cons c tail => exact ⟨c, tail, rfl⟩
  | nil => cases fuel <;> cases h

theorem settled_key {v w : List Char} (hkey : Escape.scan cs = (k, some v))
    (hcolon : skipBlanks v = ':' :: w) (hvalue : scanValue fuel (skipBlanks w) = (d, some rest)) :
    Settled (Key k) cs (skipBlanks w) := by
  obtain ⟨c, tail, hblanks⟩ := exists_cons_of_scanValue hvalue
  have hbehind := (settled_skipBlanks hcolon).trans (settled_skipBlanks_self hblanks)
    (C := fun v y => ∃ w, skipBlanks v = ':' :: w ∧ skipBlanks w = y)
    fun _ w _ hcolon hblanks => ⟨w, hcolon, hblanks.1⟩
  rw [hblanks]
  refine (Escape.settled_scan hkey).trans hbehind ?_
  rintro x v y ⟨hlength, hkey⟩ ⟨w, hcolon, hblanks⟩
  exact ⟨v, w, hlength, hkey, hcolon, hblanks⟩

/-- A member leads to those behind it; the text of its value stays the same. -/
theorem leads_member (hkey : Settled (Key k) cs y) (hvalue : Settled (Finds scanValue 2 d) y rest) :
    Settled (Leads scanMoreMembers 2 scanMember 2
      (.more k d (String.ofList (y.take (y.length - rest.length))))) cs rest := by
  refine hkey.trans hvalue.taken ?_
  rintro x y z ⟨v, w, hlength, hkey, hcolon, hblanks⟩ ⟨hvalue, htaken⟩ ms rest hmore
  rw [← htaken]
  exact .member hlength hkey hcolon hblanks hvalue hmore

theorem leads_moreMembers (hcomma : skipBlanks cs = ',' :: y)
    (hblanks : skipBlanks y = '"' :: rest) :
    Settled (Leads scanMember 2 scanMoreMembers 2 id) cs rest :=
  (settled_skipBlanks hcomma).trans (settled_skipBlanks hblanks)
    fun _ _ _ hcomma hblanks _ _ => .moreMembers hcomma hblanks

/-! ### What is found is settled -/

mutual

/-- **A value that is found is settled** by the text up to its end. -/
theorem settled_value : ∀ {fuel : Nat} {cs rest : List Char} {d : Document},
    scanValue fuel cs = (d, some rest) → Settled (Finds scanValue 2 d) cs rest
  | 0, _, _, _, h => by cases h
  | fuel + 1, cs, rest, d, h => by
    obtain ⟨c, tail, hblanks, hbegins⟩ := scanValue_eq_some_iff.1 h
    cases hbegins with
    | string h =>
      refine (settled_skipBlanks hblanks).trans (Escape.settled_scan h) ?_
      rintro x y z hxy ⟨hlength, hyz⟩
      exact .token hxy hlength.le fun _ => .string hyz
    | array h => exact settled_of_leads (leads_array hblanks) (settled_items h)
    | object h => exact settled_of_leads (leads_object hblanks) (settled_members h)
    | @word _ d word rest h =>
      have hword : Settled (fun x y => x = word ++ y) (word ++ rest) rest :=
        ⟨word, rfl, fun _ _ => rfl⟩
      refine (settled_skipBlanks hblanks).trans hword ?_
      rintro x _ z hxy rfl
      exact .token hxy (by simp) fun _ => .word h
    | number hc h =>
      refine (settled_skipBlanks_self hblanks).trans (Number.settled_scan h) ?_
      rintro x y z ⟨hxy, hhead⟩ ⟨hlength, hyz⟩
      obtain ⟨tail, rfl⟩ := List.head?_eq_some_iff.1 hhead
      exact .token hxy (Nat.lt_succ_iff.1 hlength) fun _ => .number hc hyz

/-- The items behind a bracket. -/
theorem settled_items : ∀ {fuel : Nat} {cs rest : List Char} {is : Items},
    scanItems fuel cs = (is, some rest) → Settled (Finds scanItems 2 is) cs rest
  | 0, _, _, _, h => by cases h
  | fuel + 1, cs, rest, is, h => by
    rcases scanItems_eq_some_iff.1 h with ⟨hblanks, rfl⟩ | ⟨c, tail, hblanks, hc, hitem⟩
    · exact (settled_skipBlanks hblanks).mono fun _ _ => .itemsEnd
    · exact settled_of_leads (leads_items hblanks hc) (settled_item hitem)

/-- An item and those behind it. -/
theorem settled_item : ∀ {fuel : Nat} {cs rest : List Char} {is : Items},
    scanItem fuel cs = (is, some rest) → Settled (Finds scanItem 3 is) cs rest
  | 0, _, _, _, h => by cases h
  | fuel + 1, cs, rest, is, h => by
    obtain ⟨d, mid, is', hvalue, hmore, rfl⟩ := scanItem_eq_some_iff.1 h
    exact settled_of_leads (leads_item (settled_value hvalue)) (settled_moreItems hmore)

/-- What follows an item. -/
theorem settled_moreItems : ∀ {fuel : Nat} {cs rest : List Char} {is : Items},
    scanMoreItems fuel cs = (is, some rest) → Settled (Finds scanMoreItems 2 is) cs rest
  | 0, _, _, _, h => by cases h
  | fuel + 1, cs, rest, is, h => by
    rcases scanMoreItems_eq_some_iff.1 h with ⟨hblanks, rfl⟩ | ⟨cs', hcomma, hbehind⟩
    · exact (settled_skipBlanks hblanks).mono fun _ _ => .moreItemsEnd
    rcases hbehind with ⟨hblanks, rfl⟩ | ⟨c, tail, hblanks, hc, hitem⟩
    · exact (settled_skipBlanks hcomma).trans (settled_skipBlanks hblanks)
        fun _ _ _ => .moreItemsComma
    · exact settled_of_leads (leads_moreItems hcomma hblanks hc) (settled_item hitem)

/-- The members behind a brace. -/
theorem settled_members : ∀ {fuel : Nat} {cs rest : List Char} {ms : Members},
    scanMembers fuel cs = (ms, some rest) → Settled (Finds scanMembers 2 ms) cs rest
  | 0, _, _, _, h => by cases h
  | fuel + 1, cs, rest, ms, h => by
    rcases scanMembers_eq_some_iff.1 h with ⟨hblanks, rfl⟩ | ⟨tail, hblanks, hmember⟩
    · exact (settled_skipBlanks hblanks).mono fun _ _ => .membersEnd
    · exact settled_of_leads (leads_members hblanks) (settled_member hmember)

/-- A member and those behind it. -/
theorem settled_member : ∀ {fuel : Nat} {cs rest : List Char} {ms : Members},
    scanMember fuel cs = (ms, some rest) → Settled (Finds scanMember 2 ms) cs rest
  | 0, _, _, _, h => by cases h
  | fuel + 1, cs, rest, ms, h => by
    obtain ⟨k, v, w, d, mid, ms', hkey, hcolon, hvalue, hmore, rfl⟩ := scanMember_eq_some_iff.1 h
    have hkey := settled_key hkey hcolon hvalue
    exact settled_of_leads (leads_member hkey (settled_value hvalue)) (settled_moreMembers hmore)

/-- What follows a member. -/
theorem settled_moreMembers : ∀ {fuel : Nat} {cs rest : List Char} {ms : Members},
    scanMoreMembers fuel cs = (ms, some rest) → Settled (Finds scanMoreMembers 2 ms) cs rest
  | 0, _, _, _, h => by cases h
  | fuel + 1, cs, rest, ms, h => by
    rcases scanMoreMembers_eq_some_iff.1 h with ⟨hblanks, rfl⟩ | ⟨cs', hcomma, hbehind⟩
    · exact (settled_skipBlanks hblanks).mono fun _ _ => .moreMembersEnd
    rcases hbehind with ⟨hblanks, rfl⟩ | ⟨tail, hblanks, hmember⟩
    · exact (settled_skipBlanks hcomma).trans (settled_skipBlanks hblanks)
        fun _ _ _ => .moreMembersComma
    · exact settled_of_leads (leads_moreMembers hcomma hblanks) (settled_member hmember)

end

/-- The fuel of a scan does not matter, as long as there is enough of it. -/
theorem finds_iff : Finds scanValue 2 d cs rest ↔ scan cs = (d, some rest) :=
  ⟨fun h => h.2 _ (by omega), fun h => (settled_value h).holds⟩

end Document

end NonceAllocation
