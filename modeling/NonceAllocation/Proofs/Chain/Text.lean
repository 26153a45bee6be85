import NonceAllocation.Chain.Format
import NonceAllocation.Proofs.Json.Decode
import NonceAllocation.Proofs.Json.Written

namespace NonceAllocation

/-!
# Chain identifiers — as texts and as JSON

A text is read as the two parts around its first colon, so that a reference may hold colons and a
family that is read never does.  An identifier that is made otherwise may hold colons in its family,
and then its text is read as another identifier, or its parts may be empty, and then it may have a
text that is not read at all.

* `ChainId.Spells`, `ChainId.read_eq_error_iff` — the texts that are read, and all others;
* `ChainId.IsSplit` — the parts around the first colon of a text;
* `ChainId.IsPlain` — the identifiers that are read from texts;
* `ChainId.read_text_eq_ok_iff` — what is read of the text of any identifier;
* `ChainId.run_eq_ok_iff`, `ChainId.json_text_inj` — the same as JSON;
* `ChainId.TextLaws`, `ChainId.text_laws` — all of it.
-/

namespace ChainId

variable {s t : String} {c c' d : ChainId}

/-! ### Reading -/

/-- Whether the text spells the identifier: a family without colons, a colon and a reference,
    neither of them empty. -/
def Spells (s : String) (k : ChainId) : Prop :=
  s = k.text ∧ ':' ∉ k.family.toList ∧ k.family ≠ "" ∧ k.reference ≠ ""

theorem read_eq_ok_iff_spells : read s = .ok c ↔ Spells s c := read_eq_ok_iff

theorem Spells.unique (h : Spells s c) (h' : Spells s c') : c = c' := by
  have hread := read_eq_ok_iff_spells.2 h
  rw [read_eq_ok_iff_spells.2 h'] at hread
  cases hread
  rfl

/-- A text that spells no identifier is shown as it is. -/
theorem read_eq_error_iff {fault : ChainIdFault} :
    read s = .error fault ↔ (∀ k, ¬ Spells s k) ∧ fault = ⟨s⟩ := by
  have hspells : (∀ k, ¬ Spells s k) ↔ ∀ k, read s ≠ .ok k :=
    forall_congr' fun k => not_congr read_eq_ok_iff_spells.symm
  rw [hspells, read]
  split
  · split
    · simp [eq_comm]
    · simp
  · simp [eq_comm]

/-! ### The first colon of a text -/

/-- Whether the text has its first colon between the family and the reference. -/
def IsSplit (s : String) (c : ChainId) : Prop := s = c.text ∧ ':' ∉ c.family.toList

theorem isSplit_iff :
    IsSplit s c ↔ splitFirst ':' s.toList = some (c.family.toList, c.reference.toList) := by
  rw [splitFirst_eq_some_iff, IsSplit, ← String.toList_inj, text]
  simp

theorem IsSplit.unique (h : IsSplit s c) (h' : IsSplit s c') : c = c' := by
  have hsplit := isSplit_iff.1 h
  rw [isSplit_iff.1 h', Option.some.injEq, Prod.mk.injEq, String.toList_inj, String.toList_inj]
    at hsplit
  exact ChainId.ext hsplit.1.symm hsplit.2.symm

/-- A text with a colon has a first one. -/
theorem exists_isSplit_iff : (∃ c, IsSplit s c) ↔ ':' ∈ s.toList := by
  rw [← not_iff_not, ← splitFirst_eq_none_iff, Option.eq_none_iff_forall_ne_some]
  constructor
  · rintro h ⟨front, back⟩ hsplit
    refine h ⟨⟨String.ofList front, String.ofList back⟩, isSplit_iff.2 ?_⟩
    rw [hsplit, String.toList_ofList, String.toList_ofList]
  · rintro h ⟨c, hc⟩
    exact h _ (isSplit_iff.1 hc)

/-- An identifier whose parts are not empty, the family without colons. -/
structure IsPlain (c : ChainId) : Prop where
  family_ne : c.family ≠ ""
  colon_notMem : ':' ∉ c.family.toList
  reference_ne : c.reference ≠ ""

theorem spells_iff : Spells s c ↔ s = c.text ∧ IsPlain c := by
  constructor
  · rintro ⟨hs, hcolon, hfamily, hreference⟩
    exact ⟨hs, hfamily, hcolon, hreference⟩
  · rintro ⟨hs, hfamily, hcolon, hreference⟩
    exact ⟨hs, hcolon, hfamily, hreference⟩

/-- A text is refused if it has no colon, or nothing on one side of the first one. -/
theorem exists_read_eq_error_iff :
    (∃ fault, read s = .error fault) ↔
      ':' ∉ s.toList ∨ ∃ c, IsSplit s c ∧ (c.family = "" ∨ c.reference = "") := by
  have hspells : (∃ fault, read s = .error fault) ↔ ∀ c, ¬ Spells s c := by
    constructor
    · rintro ⟨fault, h⟩
      exact (read_eq_error_iff.1 h).1
    · intro h
      exact ⟨⟨s⟩, read_eq_error_iff.2 ⟨h, rfl⟩⟩
  rw [hspells, ← exists_isSplit_iff]
  constructor
  · intro h
    by_cases hsplit : ∃ c, IsSplit s c
    · obtain ⟨c, hc⟩ := hsplit
      refine .inr ⟨c, hc, ?_⟩
      by_contra hparts
      obtain ⟨hfamily, hreference⟩ := not_or.1 hparts
      exact h c ⟨hc.1, hc.2, hfamily, hreference⟩
    · exact .inl hsplit
  · rintro (hnone | ⟨c, hc, hparts⟩) c' hspells
    · exact hnone ⟨c', hspells.1, hspells.2.1⟩
    · obtain rfl := hc.unique ⟨hspells.1, hspells.2.1⟩
      exact not_or.2 ⟨hspells.2.2.1, hspells.2.2.2⟩ hparts

/-! ### The text of an identifier -/

/-- The text of any identifier is read as the parts around its first colon. -/
theorem read_text_eq_ok_iff : read c.text = .ok d ↔ IsSplit c.text d ∧ IsPlain d := by
  rw [read_eq_ok_iff_spells, spells_iff]
  exact ⟨fun h => ⟨⟨h.1, h.2.colon_notMem⟩, h.2⟩, fun h => ⟨h.1.1, h.2⟩⟩

theorem read_text_self_iff : read c.text = .ok c ↔ IsPlain c := by
  rw [read_eq_ok_iff_spells, spells_iff]
  exact and_iff_right rfl

/-- A text that is read as another identifier has its first colon in the family. -/
theorem colon_mem_of_read_text (h : read c.text = .ok d) (hne : d ≠ c) : ':' ∈ c.family.toList := by
  by_contra hcolon
  exact hne ((read_text_eq_ok_iff.1 h).1.unique ⟨rfl, hcolon⟩)

/-- An identifier that is read from a text is told by its text. -/
theorem IsPlain.text_inj (h : IsPlain c) (h' : IsPlain c') : c.text = c'.text ↔ c = c' :=
  ⟨fun htext => IsSplit.unique ⟨rfl, h.colon_notMem⟩ ⟨htext, h'.colon_notMem⟩, congrArg text⟩

/-- An identifier shares its text with another one if there is a second colon to split it at. -/
theorem exists_text_eq_iff :
    (∃ a, a ≠ c ∧ a.text = c.text) ↔ ':' ∈ c.family.toList ∨ ':' ∈ c.reference.toList := by
  constructor
  · rintro ⟨a, hne, htext⟩
    by_contra hcolon
    -- The text of `c` has one colon, so that `a` has none in its family either.
    have hcount := congrArg (fun t : String => t.toList.count ':') htext
    simp only [text, String.toList_append, List.count_append] at hcount
    obtain ⟨hfamily, hreference⟩ := not_or.1 hcolon
    rw [List.count_eq_zero_of_not_mem hfamily, List.count_eq_zero_of_not_mem hreference] at hcount
    have hnone : ':' ∉ a.family.toList := List.count_eq_zero.1 (by omega)
    exact hne (IsSplit.unique ⟨rfl, hnone⟩ ⟨htext, hfamily⟩)
  · rintro (hcolon | hcolon)
    · obtain ⟨p, hp, -⟩ := exists_isSplit_iff.2 hcolon
      refine ⟨⟨p.family, p.reference ++ ":" ++ c.reference⟩, fun heq => ?_, ?_⟩
      · have hlength := congrArg (fun a => a.reference.length) heq
        simp only [String.length_append, show ":".length = 1 from rfl] at hlength
        omega
      · rw [text, text, hp, text]
        simp only [String.append_assoc]
    · obtain ⟨p, hp, -⟩ := exists_isSplit_iff.2 hcolon
      refine ⟨⟨c.family ++ ":" ++ p.family, p.reference⟩, fun heq => ?_, ?_⟩
      · have hlength := congrArg (fun a => a.family.length) heq
        simp only [String.length_append, show ":".length = 1 from rfl] at hlength
        omega
      · rw [text, text, hp, text]
        simp only [String.append_assoc]

/-! ### JSON -/

/-- The JSON of an identifier is its text as a string. -/
theorem run_text_json (c : ChainId) : Decoder.text.run c.json.text = .ok c.text := by
  rw [json, Decoder.run_text]
  rfl

theorem json_text_inj : c.json.text = c'.json.text ↔ c.text = c'.text := by
  constructor
  · intro h
    have hread := run_text_json c
    rw [h, run_text_json c', Except.ok.injEq] at hread
    exact hread.symm
  · intro h
    rw [json, json, h]

/-- The JSON of a string is decoded as the string is read, however it is written. -/
theorem run_of_text (h : Decoder.text.run t = .ok s) :
    decode.run t = (read s).mapError fun e => .refused e.message := by
  refine (Decoder.run_bind_of_ok h).trans ?_
  show ((read s).mapError ChainIdFault.message).mapError DecodeError.refused = _
  cases read s <;> rfl

/-- A decoder of identifiers accepts the JSON of the strings that are read, and nothing else. -/
theorem run_eq_ok_iff :
    decode.run t = .ok c ↔ ∃ s, Decoder.text.run t = .ok s ∧ read s = .ok c := by
  refine Decoder.run_bind_eq_ok_iff.trans (exists_congr fun s => and_congr_right' ?_)
  rw [mapError_eq_ok_iff, mapError_eq_ok_iff]

/-- Whether it was read from a text or decoded from JSON, an identifier is a plain one. -/
theorem isPlain_of_parsed (h : (∃ s, read s = .ok c) ∨ ∃ t, decode.run t = .ok c) : IsPlain c := by
  rcases h with ⟨s, hread⟩ | ⟨t, hrun⟩
  · exact (spells_iff.1 (read_eq_ok_iff_spells.1 hread)).2
  · obtain ⟨s, -, hread⟩ := run_eq_ok_iff.1 hrun
    exact (spells_iff.1 (read_eq_ok_iff_spells.1 hread)).2

/-! ### Texts and identifiers -/

/-- What holds of a text, of a JSON text and of two identifiers. -/
structure TextLaws (s t : String) (c d : ChainId) : Prop where
  /-- What is read of a text has that text. -/
  text_of_read : read s = .ok c → c.text = s ∧ IsPlain c
  /-- A text is refused if it has no colon, or nothing on one side of the first one. -/
  refused_iff : (∃ fault, read s = .error fault) ↔
    ':' ∉ s.toList ∨ ∃ p, IsSplit s p ∧ (p.family = "" ∨ p.reference = "")
  same_iff : read c.text = .ok c ↔ IsPlain c
  /-- Another identifier is read of a text if it is split at a colon of the family. -/
  other : read c.text = .ok d → d ≠ c → IsSplit c.text d ∧ ':' ∈ c.family.toList
  /-- An identifier is written as the string of its text. -/
  encoded : Decoder.text.run c.json.text = .ok c.text
  /-- A string is decoded as it is read. -/
  decoded : Decoder.text.run t = .ok s →
    decode.run t = (read s).mapError fun _ => .refused ("Invalid chain id format " ++ s)
  /-- Nothing but strings is decoded. -/
  decoded_iff : decode.run t = .ok c ↔ ∃ s, Decoder.text.run t = .ok s ∧ read s = .ok c
  /-- Identifiers that are read from texts, or decoded, are told by their texts. -/
  told : ((∃ s, read s = .ok c) ∨ ∃ t, decode.run t = .ok c) →
    ((∃ s, read s = .ok d) ∨ ∃ t, decode.run t = .ok d) → (c.text = d.text ↔ c = d)
  told_json : c.json.text = d.json.text ↔ c.text = d.text
  /-- Among all identifiers one is told by its text only if there is one colon in it. -/
  untold_iff : (∃ a, a ≠ c ∧ a.text = c.text) ↔
    ':' ∈ c.family.toList ∨ ':' ∈ c.reference.toList

/-- **Identifiers and their texts are partial inverses.**  What is read has the text that it was
    read from, and the text of an identifier is read as the identifier unless its family holds a
    colon or one of its parts is empty.  JSON holds the text, no more and no less.  So identifiers
    that were read are told by their texts, though others may share a text. -/
theorem text_laws (s t : String) (c d : ChainId) : TextLaws s t c d where
  text_of_read h := by
    obtain ⟨htext, hplain⟩ := spells_iff.1 (read_eq_ok_iff_spells.1 h)
    exact ⟨htext.symm, hplain⟩
  refused_iff := exists_read_eq_error_iff
  same_iff := read_text_self_iff
  other h hne := ⟨(read_text_eq_ok_iff.1 h).1, colon_mem_of_read_text h hne⟩
  encoded := run_text_json c
  decoded h := by
    rw [run_of_text h]
    cases hread : read s with
    | ok c => rfl
    | error fault =>
      obtain ⟨-, rfl⟩ := read_eq_error_iff.1 hread
      rfl
  decoded_iff := run_eq_ok_iff
  told hc hd := (isPlain_of_parsed hc).text_inj (isPlain_of_parsed hd)
  told_json := json_text_inj
  untold_iff := exists_text_eq_iff

/-- A reference may hold colons, and then another identifier has the same text. -/
example : read "custom:a:b" = .ok ⟨"custom", "a:b"⟩ ∧
    (⟨"custom:a", "b"⟩ : ChainId).text = "custom:a:b" := by
  decide

end ChainId

end NonceAllocation
