import NonceAllocation.Proofs.Json.Token

namespace NonceAllocation

/-!
# JSON values — what is written is found

* `Json.found` — the document of a value;
* `Document.scan_write` — the text of a value is found as that document, with nothing left;
* `Decoder.run_text` — so that a decoder makes of a written text what it makes of the document.

The scan of a value takes fewer than three steps for each character of it, which is what the fuel of
a scan is measured by.
-/

namespace Json

/-! ### The document of a value -/

mutual

/-- What a written value is found as. -/
def found : Json → Document
  | .bool b => .bool b
  | .number n => .number (Number.ofWritten n)
  | .string s => .string (.ok s)
  | .array items => .array (foundItems items)
  | .object members => .object (foundMembers members)

/-- What written items are found as. -/
def foundItems : List Json → Items
  | [] => .done .closed
  | j :: js => .more (found j) (foundItems js)

/-- What written members are found as. -/
def foundMembers : List (String × Json) → Members
  | [] => .done .closed
  | (key, j) :: ms => .more (.ok key) (found j) j.text (foundMembers ms)

end

/-! ### Texts of items and members -/

/-- Items behind another one, each behind a comma. -/
def moreItems (js : List Json) : List Char := (writeItems js).flatMap (',' :: ·)

/-- Members behind another one, each behind a comma. -/
def moreMembers (ms : List (String × Json)) : List Char := (writeMembers ms).flatMap (',' :: ·)

theorem separated_cons (cs : List Char) (css : List (List Char)) :
    separated (cs :: css) = cs ++ css.flatMap (',' :: ·) := by
  induction css generalizing cs with
  | nil => simp [separated]
  | cons cs' css ih =>
    rw [separated, ih, List.flatMap_cons, List.cons_append]
    exact List.cons_ne_nil cs' css

theorem moreItems_cons (j : Json) (js : List Json) :
    moreItems (j :: js) = ',' :: (j.write ++ moreItems js) := by
  rw [moreItems, writeItems, List.flatMap_cons, List.cons_append, moreItems]

theorem moreMembers_cons (key : String) (j : Json) (ms : List (String × Json)) :
    moreMembers ((key, j) :: ms)
      = ',' :: (Escape.write key ++ ':' :: (j.write ++ moreMembers ms)) := by
  rw [moreMembers, writeMembers, List.flatMap_cons, List.cons_append, List.append_assoc,
    List.cons_append, moreMembers]

theorem write_array_cons (j : Json) (js : List Json) :
    (array (j :: js)).write = '[' :: (j.write ++ (moreItems js ++ [']'])) := by
  rw [write, writeItems, separated_cons, moreItems, List.cons_append, List.append_assoc]

theorem write_object_cons (key : String) (j : Json) (ms : List (String × Json)) :
    (object ((key, j) :: ms)).write
      = '\x7b' :: (Escape.write key ++ ':' :: (j.write ++ (moreMembers ms ++ ['\x7d']))) := by
  rw [write, writeMembers, separated_cons, moreMembers]
  simp

theorem delimited_moreItems (js : List Json) (rest : List Char) :
    Delimited (moreItems js ++ ']' :: rest) := by
  cases js with
  | nil => exact delimited_cons (by simp) rest
  | cons j js =>
    rw [moreItems_cons]
    exact delimited_cons (by simp) _

theorem delimited_moreMembers (ms : List (String × Json)) (rest : List Char) :
    Delimited (moreMembers ms ++ '\x7d' :: rest) := by
  cases ms with
  | nil => exact delimited_cons (by simp) rest
  | cons m ms =>
    rw [moreMembers_cons]
    exact delimited_cons (by simp) _

theorem isBlank_of_numeral {c : Char} (hc : c = '-' ∨ c.isDigit = true) :
    Document.isBlank c = false := by
  cases hblank : Document.isBlank c with
  | false => rfl
  | true =>
    have hcases : c = ' ' ∨ c = '\n' ∨ c = '\t' ∨ c = '\r' := by
      simpa [Document.isBlank, or_assoc] using hblank
    rcases hcases with rfl | rfl | rfl | rfl <;> exact absurd hc (by decide)

theorem exists_writeNumber (n : Int) :
    ∃ c cs, writeNumber n = c :: cs ∧ (c = '-' ∨ c.isDigit = true) := by
  by_cases hn : n < 0
  · exact ⟨_, _, if_pos hn, .inl rfl⟩
  · obtain ⟨c, cs, hdigits, hc⟩ := Numeral.exists_toDigits n.natAbs
    exact ⟨c, cs, (if_neg hn).trans hdigits, .inr hc⟩

/-- A value's text begins with a character that is no blank and closes no list. -/
theorem exists_write (j : Json) :
    ∃ c cs, j.write = c :: cs ∧ Document.isBlank c = false ∧ c ≠ ']' := by
  cases j with
  | bool b => cases b <;> exact ⟨_, _, rfl, rfl, by decide⟩
  | number n =>
    obtain ⟨c, cs, hwrite, hc⟩ := exists_writeNumber n
    refine ⟨c, cs, hwrite, isBlank_of_numeral hc, ?_⟩
    rintro rfl
    exact absurd hc (by decide)
  | string s => exact ⟨_, _, rfl, rfl, by decide⟩
  | array js =>
    have hwrite : (array js).write = '[' :: (separated (writeItems js) ++ [']']) := by
      rw [write]
      rfl
    exact ⟨_, _, hwrite, rfl, by decide⟩
  | object ms =>
    have hwrite : (object ms).write = '\x7b' :: (separated (writeMembers ms) ++ ['\x7d']) := by
      rw [write]; rfl
    exact ⟨_, _, hwrite, rfl, by decide⟩

end Json

namespace Document

open Json

variable {fuel : Nat} {cs rest rest' : List Char} {d : Document} {items : Items} {members : Members}

/-! ### Single steps of the scan -/

theorem skipBlanks_cons {c : Char} (hc : isBlank c = false) : skipBlanks (c :: cs) = c :: cs := by
  rw [skipBlanks, List.dropWhile_cons_of_neg (by simp [hc])]

theorem skipBlanks_write (j : Json) : skipBlanks (j.write ++ rest) = j.write ++ rest := by
  obtain ⟨c, cs, hwrite, hc, -⟩ := exists_write j
  rw [hwrite, List.cons_append, skipBlanks_cons hc]

theorem scanItem_of (hvalue : scanValue fuel cs = (d, some rest'))
    (hmore : scanMoreItems fuel rest' = (items, some rest)) :
    scanItem (fuel + 1) cs = (.more d items, some rest) := by
  rw [scanItem, hvalue]
  simp only [hmore]

/-- Behind the bracket, a list goes on with its first item. -/
theorem scanItems_write (j : Json) :
    scanItems (fuel + 1) (j.write ++ cs) = scanItem fuel (j.write ++ cs) := by
  obtain ⟨c, cs', hwrite, hblank, hc⟩ := exists_write j
  rw [scanItems, skipBlanks_write, hwrite, List.cons_append]
  split
  · rename_i h
    cases h
  · rename_i h
    exact absurd (List.cons.inj h).1 hc
  · rfl

/-- Behind a comma, it goes on with the next one. -/
theorem scanMoreItems_comma (j : Json) :
    scanMoreItems (fuel + 1) (',' :: (j.write ++ cs)) = scanItem fuel (j.write ++ cs) := by
  obtain ⟨c, cs', hwrite, hblank, hc⟩ := exists_write j
  rw [scanMoreItems, skipBlanks_cons rfl]
  simp only [skipBlanks_write]
  rw [hwrite, List.cons_append]
  split
  · rename_i h
    cases h
  · rename_i h
    exact absurd (List.cons.inj h).1 hc
  · rfl

/-- A member is found with the text of its value. -/
theorem scanMember_of (key : String) {j : Json}
    (hvalue : scanValue fuel (j.write ++ rest') = (d, some rest'))
    (hmore : scanMoreMembers fuel rest' = (members, some rest)) :
    scanMember (fuel + 1) (key.toList.flatMap Escape.writeChar ++ '"' :: ':' :: (j.write ++ rest'))
      = (.more (.ok key) d j.text members, some rest) := by
  have hraw : (j.write ++ rest').take ((j.write ++ rest').length - rest'.length) = j.write := by
    rw [List.length_append, Nat.add_sub_cancel]
    exact List.take_left
  rw [scanMember, Escape.scan_body]
  simp only [skipBlanks_cons (show isBlank ':' = false from rfl), skipBlanks_write, hvalue, hmore,
    hraw]
  rfl

/-- Behind the brace, and behind a comma, an object goes on with a member. -/
theorem scanMembers_write (key : String) :
    scanMembers (fuel + 1) (Escape.write key ++ cs)
      = scanMember fuel (key.toList.flatMap Escape.writeChar ++ '"' :: cs) := by
  rw [Escape.write_append, scanMembers, skipBlanks_cons rfl]
  rfl

@[inherit_doc scanMembers_write]
theorem scanMoreMembers_comma (key : String) :
    scanMoreMembers (fuel + 1) (',' :: (Escape.write key ++ cs))
      = scanMember fuel (key.toList.flatMap Escape.writeChar ++ '"' :: cs) := by
  rw [Escape.write_append, scanMoreMembers, skipBlanks_cons rfl]
  simp only [skipBlanks_cons (show isBlank '"' = false from rfl)]

/-- A value that begins as a number does is scanned as one. -/
theorem scanValue_numeral {c : Char} (hc : c = '-' ∨ c.isDigit = true) :
    scanValue (fuel + 1) (c :: cs)
      = (.number (Number.scan (c :: cs)).1, (Number.scan (c :: cs)).2) := by
  rw [scanValue, skipBlanks_cons (isBlank_of_numeral hc)]
  split
  case h_1 h => cases h
  case h_8 h =>
    obtain ⟨rfl, rfl⟩ := List.cons.inj h
    rw [if_pos hc]
  -- No other value begins so.
  all_goals
    rename_i h
    obtain ⟨rfl, -⟩ := List.cons.inj h
    exact absurd hc (by decide)

theorem scanValue_number (n : Int) (hfuel : 3 * (Json.number n).write.length ≤ fuel)
    (hrest : Delimited rest) :
    scanValue fuel ((Json.number n).write ++ rest) = ((Json.number n).found, some rest) := by
  obtain ⟨c, cs, hwrite, hc⟩ := exists_writeNumber n
  have hscan := Number.scan_writeNumber n hrest
  rw [write, hwrite] at hfuel ⊢
  rw [hwrite] at hscan
  obtain ⟨fuel, rfl⟩ : ∃ f, fuel = f + 1 := by
    rw [List.length_cons] at hfuel
    exact ⟨fuel - 1, by omega⟩
  rw [List.cons_append] at hscan ⊢
  rw [scanValue_numeral hc, hscan, found]

/-! ### Values -/

mutual

/-- **A written value is found**, given three steps of the scan for each of its characters. -/
theorem scanValue_write : ∀ (j : Json) (fuel : Nat) (rest : List Char),
    3 * j.write.length ≤ fuel → Delimited rest →
      scanValue fuel (j.write ++ rest) = (j.found, some rest)
  | .bool true, fuel + 1, rest, _, _ => rfl
  | .bool false, fuel + 1, rest, _, _ => rfl
  | .number n, fuel, rest, hfuel, hrest => scanValue_number n hfuel hrest
  | .string s, fuel + 1, rest, _, _ => by
    rw [write, Escape.write_append, scanValue, skipBlanks_cons rfl]
    simp only [Escape.scan_body, found]
  | .array [], fuel + 2, rest, _, _ => rfl
  | .array (j :: js), fuel + 3, rest, hfuel, _ => by
    rw [write_array_cons] at hfuel ⊢
    simp only [List.length_cons, List.length_append, List.length_nil] at hfuel
    have hmore := scanMoreItems_write js fuel rest (by omega)
    have hvalue := scanValue_write j fuel _ (by omega) (delimited_moreItems js rest)
    have hitems := scanItem_of hvalue hmore
    simp only [List.cons_append, List.append_assoc, List.nil_append]
    rw [scanValue, skipBlanks_cons rfl]
    simp only [scanItems_write, hitems, found, foundItems]
  | .object [], fuel + 2, rest, _, _ => rfl
  | .object ((key, j) :: ms), fuel + 3, rest, hfuel, _ => by
    rw [write_object_cons] at hfuel ⊢
    simp only [List.length_cons, List.length_append, List.length_nil] at hfuel
    have hmore := scanMoreMembers_write ms fuel rest (by omega)
    have hvalue := scanValue_write j fuel _ (by omega) (delimited_moreMembers ms rest)
    have hmembers := scanMember_of key hvalue hmore
    simp only [List.cons_append, List.append_assoc, List.nil_append]
    rw [scanValue, skipBlanks_cons rfl]
    simp only [scanMembers_write, hmembers, found, foundMembers]

/-- Items behind another one are found. -/
theorem scanMoreItems_write : ∀ (js : List Json) (fuel : Nat) (rest : List Char),
    3 * (moreItems js).length + 2 ≤ fuel →
      scanMoreItems fuel (moreItems js ++ ']' :: rest) = (foundItems js, some rest)
  | [], fuel + 1, rest, _ => rfl
  | j :: js, fuel + 2, rest, hfuel => by
    rw [moreItems_cons] at hfuel ⊢
    simp only [List.length_cons, List.length_append] at hfuel
    have hmore := scanMoreItems_write js fuel rest (by omega)
    have hvalue := scanValue_write j fuel _ (by omega) (delimited_moreItems js rest)
    rw [List.cons_append, List.append_assoc, scanMoreItems_comma, scanItem_of hvalue hmore,
      foundItems]

/-- Members behind another one are found. -/
theorem scanMoreMembers_write : ∀ (ms : List (String × Json)) (fuel : Nat) (rest : List Char),
    3 * (moreMembers ms).length + 2 ≤ fuel →
      scanMoreMembers fuel (moreMembers ms ++ '\x7d' :: rest) = (foundMembers ms, some rest)
  | [], fuel + 1, rest, _ => rfl
  | (key, j) :: ms, fuel + 2, rest, hfuel => by
    rw [moreMembers_cons] at hfuel ⊢
    simp only [List.length_cons, List.length_append] at hfuel
    have hmore := scanMoreMembers_write ms fuel rest (by omega)
    have hvalue := scanValue_write j fuel _ (by omega) (delimited_moreMembers ms rest)
    simp only [List.cons_append, List.append_assoc]
    rw [scanMoreMembers_comma, scanMember_of key hvalue hmore, foundMembers]

end

/-- The text of a value is found as the value, and nothing is left of it. -/
theorem scan_write (j : Json) : scan j.write = (j.found, some []) := by
  have hscan := scanValue_write j (3 * j.write.length + 1) [] (Nat.le_succ _) delimited_nil
  rwa [List.append_nil] at hscan

end Document

/-- A decoder makes of a written text what it makes of the value's document. -/
theorem Decoder.run_text {α : Type} (decode : Decoder α) (j : Json) :
    decode.run j.text = decode j.found := by
  rw [run, Json.text, String.toList_ofList, Document.scan_write]
  show (decode j.found >>= fun a => .ok a) = decode j.found
  cases decode j.found <;> rfl

end NonceAllocation
