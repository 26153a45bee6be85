import NonceAllocation.Proofs.Record.RoundTrip
import NonceAllocation.Proofs.Text.Bytes

namespace NonceAllocation

/-!
# Filecoin addresses — which texts they are

The reader judges bytes, splits at the first `f` and lets a number overflow.  Told without it, an
address is a letter, a digit and a payload, each payload with a grammar of its own.

* `IsBase32`, `FilAddress.IsPayload` — the payloads of a protocol, by its number;
* `FilProtocol.accepts_iff` — the reader's judgement of a payload is that grammar;
* `FilAddress.Spells`, `FilAddress.Refused` — the texts that are addresses, and what is wrong with
  any other one, the first fault from the left;
* `FilAddress.read_eq_ok_iff`, `FilAddress.read_eq_error_iff` — what is read, and what is told
  otherwise;
* `FilAddress.grammar_of_texts` — all of it, with the ways back from an address to its text and the
  division of the texts among the networks.
-/

/-- Whether the character is one of a to z and 2 to 7. -/
def IsBase32 (c : Char) : Prop := 'a' ≤ c ∧ c ≤ 'z' ∨ '2' ≤ c ∧ c ≤ '7'

instance : DecidablePred IsBase32 := fun _ => inferInstanceAs (Decidable (_ ∧ _ ∨ _ ∧ _))

/-! ### Payloads -/

namespace FilAddress

/-- The payloads that may follow the digit of a number. -/
inductive IsPayload : Nat → List Char → Prop where
  /-- The digits of a number of 64 bits. -/
  | id {digits : List Char} (hne : digits ≠ []) (hdigits : ∀ c ∈ digits, c.isDigit = true)
      (hlt : Nat.ofDigitChars 10 digits 0 < 2 ^ 64) : IsPayload 0 digits
  /-- A hash. -/
  | hash {p : Nat} {cs : List Char} (hp : p = 1 ∨ p = 2) (hlength : cs.length = 39)
      (hcs : ∀ c ∈ cs, IsBase32 c) : IsPayload p cs
  /-- A key. -/
  | key {cs : List Char} (hlength : cs.length = 84) (hcs : ∀ c ∈ cs, IsBase32 c) : IsPayload 3 cs
  /-- The digits of a namespace, an `f`, and an address inside the namespace. -/
  | delegated {space sub : List Char} (hspace : space ≠ [])
      (hdigits : ∀ c ∈ space, c.isDigit = true) (hsub : sub ≠ [])
      (hcs : ∀ c ∈ sub, IsBase32 c) : IsPayload 4 (space ++ 'f' :: sub)

end FilAddress

namespace FilProtocol

open FilAddress

variable {cs : List Char}

theorem consistsOf_iff {kind : UInt8 → Bool} {p : Char → Prop}
    (hkind : ∀ b, kind b = true → b.toNat < 128)
    (hp : ∀ c, c.toNat < 128 ∧ kind (UInt8.ofNat c.toNat) = true ↔ p c) :
    consistsOf kind cs = true ↔ cs ≠ [] ∧ ∀ c ∈ cs, p c := by
  rw [consistsOf, Bool.and_eq_true, List.all_eq_true, forall_byte_iff hkind]
  simp only [hp]
  simp

theorem consistsOf_digit_iff :
    consistsOf isDigitByte cs = true ↔ cs ≠ [] ∧ ∀ c ∈ cs, c.isDigit = true := by
  have hlow : ('0'.toUInt8).toNat = 48 := rfl
  have htop : ('9'.toUInt8).toNat = 57 := rfl
  apply consistsOf_iff
  · intro b hb
    simp only [isDigitByte, decide_eq_true_eq, UInt8.le_iff_toNat_le] at hb
    omega
  · intro c
    simp only [isDigitByte, decide_eq_true_eq, UInt8.le_iff_toNat_le, Char.isDigit_iff_toNat,
      Char.reduceToNat, UInt8.toNat_ofNat']
    omega

theorem isBase32_iff {c : Char} :
    IsBase32 c ↔ 97 ≤ c.toNat ∧ c.toNat ≤ 122 ∨ 50 ≤ c.toNat ∧ c.toNat ≤ 55 := Iff.rfl

theorem consistsOf_base32_iff :
    consistsOf isBase32Byte cs = true ↔ cs ≠ [] ∧ ∀ c ∈ cs, IsBase32 c := by
  have ha : ('a'.toUInt8).toNat = 97 := rfl
  have hz : ('z'.toUInt8).toNat = 122 := rfl
  have htwo : ('2'.toUInt8).toNat = 50 := rfl
  have hseven : ('7'.toUInt8).toNat = 55 := rfl
  apply consistsOf_iff
  · intro b hb
    simp only [isBase32Byte, decide_eq_true_eq, UInt8.le_iff_toNat_le] at hb
    omega
  · intro c
    simp only [isBase32Byte, decide_eq_true_eq, UInt8.le_iff_toNat_le, isBase32_iff,
      UInt8.toNat_ofNat']
    omega

theorem lt_of_isBase32 {c : Char} (hc : IsBase32 c) : c.toNat < 128 := by
  rw [isBase32_iff] at hc
  omega

/-- A payload of a fixed number of bytes has that many characters. -/
theorem fixed_iff {length : Nat} (hpos : 0 < length) :
    ((cs.flatMap String.utf8EncodeChar).length == length && consistsOf isBase32Byte cs) = true
      ↔ cs.length = length ∧ ∀ c ∈ cs, IsBase32 c := by
  rw [Bool.and_eq_true, beq_iff_eq, consistsOf_base32_iff]
  constructor
  · rintro ⟨hlength, -, hcs⟩
    rw [bytes_of_ascii fun c hc => lt_of_isBase32 (hcs c hc), List.length_map] at hlength
    exact ⟨hlength, hcs⟩
  · rintro ⟨hlength, hcs⟩
    rw [bytes_of_ascii fun c hc => lt_of_isBase32 (hcs c hc), List.length_map]
    refine ⟨hlength, ?_, hcs⟩
    rintro rfl
    rw [List.length_nil] at hlength
    omega

theorem accepts_id_iff : accepts id cs = true ↔ IsPayload 0 cs := by
  rw [accepts, Bool.and_eq_true, consistsOf_digit_iff]
  constructor
  · rintro ⟨⟨hne, hdigits⟩, hread⟩
    cases hn : Unsigned.read 64 (String.ofList cs) with
    | error e =>
      rw [hn] at hread
      cases hread
    | ok n =>
      rw [Unsigned.read_digits_eq_ok_iff hne hdigits] at hn
      exact .id hne hdigits (hn ▸ n.val_lt)
  · intro h
    cases h with
    | hash hp => omega
    | id hne hdigits hlt =>
      have hread : Unsigned.read 64 (String.ofList cs) = .ok ⟨Nat.ofDigitChars 10 cs 0, hlt⟩ := by
        rw [Unsigned.read_digits_eq_ok_iff hne hdigits]
      rw [hread]
      exact ⟨⟨hne, hdigits⟩, rfl⟩

/-- The first `f` is the one behind the digits, since no digit is an `f`. -/
theorem accepts_delegated_iff : accepts delegated cs = true ↔ IsPayload 4 cs := by
  rw [accepts]
  constructor
  · intro h
    split at h
    · rename_i space sub hsplit
      rw [Bool.and_eq_true, consistsOf_digit_iff, consistsOf_base32_iff] at h
      obtain ⟨⟨hspace, hdigits⟩, hsub, hcs⟩ := h
      obtain ⟨rfl, -⟩ := splitFirst_eq_some_iff.1 hsplit
      exact .delegated hspace hdigits hsub hcs
    · cases h
  · intro h
    cases h with
    | hash hp => omega
    | delegated hspace hdigits hsub hcs =>
      have hf : 'f' ∉ _ := fun hmem => absurd (hdigits 'f' hmem) (by decide)
      rw [splitFirst_eq_some_iff.2 ⟨rfl, hf⟩]
      simp only [Bool.and_eq_true, consistsOf_digit_iff, consistsOf_base32_iff]
      exact ⟨⟨hspace, hdigits⟩, hsub, hcs⟩

theorem accepts_hash_iff {p : FilProtocol} (hp : p = secp256k1 ∨ p = actor) :
    p.accepts cs = true ↔ IsPayload p.number cs := by
  have hnumber : p.number = 1 ∨ p.number = 2 := by
    rcases hp with rfl | rfl
    · exact .inl rfl
    · exact .inr rfl
  have haccepts : p.accepts cs
      = ((cs.flatMap String.utf8EncodeChar).length == hashLength
        && consistsOf isBase32Byte cs) := by
    rcases hp with rfl | rfl <;> rfl
  rw [haccepts, fixed_iff (by decide)]
  constructor
  · rintro ⟨hlength, hcs⟩
    exact .hash hnumber hlength hcs
  · intro h
    generalize p.number = n at h hnumber
    cases h with
    | hash _ hlength hcs => exact ⟨hlength, hcs⟩
    | _ => omega

theorem accepts_bls_iff : accepts bls cs = true ↔ IsPayload 3 cs := by
  rw [accepts, fixed_iff (by decide)]
  constructor
  · rintro ⟨hlength, hcs⟩
    exact .key hlength hcs
  · intro h
    cases h with
    | hash hp => omega
    | key hlength hcs => exact ⟨hlength, hcs⟩

/-- The reader takes the payloads of the grammar. -/
theorem accepts_iff (p : FilProtocol) : p.accepts cs = true ↔ IsPayload p.number cs := by
  cases p with
  | id => exact accepts_id_iff
  | secp256k1 => exact accepts_hash_iff (.inl rfl)
  | actor => exact accepts_hash_iff (.inr rfl)
  | bls => exact accepts_bls_iff
  | delegated => exact accepts_delegated_iff

theorem digit_eq (p : FilProtocol) : p.digit = p.number.digitChar := by cases p <;> rfl

theorem number_le (p : FilProtocol) : p.number ≤ 4 := by cases p <;> decide

theorem number_inj {p q : FilProtocol} (h : p.number = q.number) : p = q := by
  cases p <;> cases q <;> first | rfl | cases h

/-- The numbers from 0 to 4 are those of the protocols. -/
theorem exists_number_eq {n : Nat} (hn : n ≤ 4) : ∃ p : FilProtocol, p.number = n := by
  have hall : ∀ n ≤ 4, ∃ p ∈ [id, secp256k1, actor, bls, delegated], p.number = n := by decide
  obtain ⟨p, -, hp⟩ := hall n hn
  exact ⟨p, hp⟩

end FilProtocol

/-! ### Texts -/

namespace FilAddress

open FilProtocol

variable {s : String} {a : FilAddress} {fault : FilAddressFault}

/-- The letters that addresses begin with. -/
inductive Begins : Char → FilNetwork → Prop where
  | main : Begins 'f' .mainnet
  | test : Begins 't' .testnet

/-- Whether the text is the letter of the network, the digit of the number, and a payload for it. -/
def Spells (s : String) (network : FilNetwork) (p : Nat) (payload : List Char) : Prop :=
  ∃ letter, s.toList = letter :: p.digitChar :: payload ∧ Begins letter network ∧ p ≤ 4 ∧
    IsPayload p payload

/-- What is wrong with a text, the first fault from the left. -/
inductive Refused (s : String) : FilAddressFault → Prop where
  /-- It does not begin with a network's letter. -/
  | network (h : ∀ c ∈ s.toList.head?, ∀ network, ¬ Begins c network) : Refused s .network
  /-- No digit from 0 to 4 is next. -/
  | protocol {c : Char} {network : FilNetwork} {rest : List Char} (hs : s.toList = c :: rest)
      (hc : Begins c network) (h : ∀ d ∈ rest.head?, ∀ p ≤ 4, d ≠ p.digitChar) :
      Refused s .protocol
  /-- What is left is no payload for the digit. -/
  | payload {c : Char} {network : FilNetwork} {payload : List Char} {p : FilProtocol}
      (hs : s.toList = c :: p.number.digitChar :: payload) (hc : Begins c network)
      (h : ¬ IsPayload p.number payload) : Refused s (.payload p)

theorem begins_iff {c : Char} {network : FilNetwork} : Begins c network ↔ c = network.letter := by
  constructor
  · intro h
    cases h <;> rfl
  · rintro rfl
    cases network
    · exact .main
    · exact .test

theorem ofLetter?_eq_none {c : Char} (h : ∀ network, ¬ Begins c network) :
    FilNetwork.ofLetter? c = none := by
  have hf : c ≠ 'f' := fun hc => h .mainnet (hc ▸ .main)
  have ht : c ≠ 't' := fun hc => h .testnet (hc ▸ .test)
  rw [FilNetwork.ofLetter?, if_neg hf, if_neg ht]

theorem ofDigit?_eq_none {d : Char} (h : ∀ p ≤ 4, d ≠ Nat.digitChar p) : ofDigit? d = none := by
  have hzero : d ≠ '0' := h 0 (by decide)
  have hone : d ≠ '1' := h 1 (by decide)
  have htwo : d ≠ '2' := h 2 (by decide)
  have hthree : d ≠ '3' := h 3 (by decide)
  have hfour : d ≠ '4' := h 4 (by decide)
  rw [ofDigit?, if_neg hzero, if_neg hone, if_neg htwo, if_neg hthree, if_neg hfour]

/-- Behind a letter and a digit everything is up to the payload. -/
theorem read_of_toList {network : FilNetwork} {p : FilProtocol} {payload : List Char}
    (hs : s.toList = network.letter :: p.number.digitChar :: payload) :
    read s = ofParts network p payload := by
  rw [read, hs, ← digit_eq]
  simp only [FilNetwork.ofLetter?_letter, ofDigit?_digit]

/-- A payload of the grammar makes an address. -/
theorem exists_of_payload (network : FilNetwork) {p : FilProtocol} {payload : List Char}
    (h : IsPayload p.number payload) :
    ∃ a : FilAddress, a.network = network ∧ a.protocol = p ∧ a.payload.toList = payload := by
  have haccepts : p.accepts (String.ofList payload).toList = true := by
    rw [String.toList_ofList]
    exact (accepts_iff p).2 h
  exact ⟨⟨network, p, String.ofList payload, haccepts⟩, rfl, rfl, String.toList_ofList⟩

theorem read_of_spells (h : Spells s a.network a.protocol.number a.payload.toList) :
    read s = .ok a := by
  obtain ⟨letter, hs, hletter, -⟩ := h
  obtain rfl := begins_iff.1 hletter
  rw [read_of_toList hs, ofParts, dif_pos a.accepts_payload, Except.ok.injEq]
  exact FilAddress.ext rfl rfl String.ofList_toList

/-- What spells an address is read as one. -/
theorem exists_of_spells {network : FilNetwork} {p : Nat} {payload : List Char}
    (h : Spells s network p payload) :
    ∃ a, read s = .ok a ∧ a.network = network ∧ a.protocol.number = p ∧
      a.payload.toList = payload := by
  obtain ⟨letter, hs, hletter, hp, hpayload⟩ := h
  obtain ⟨protocol, rfl⟩ := exists_number_eq hp
  obtain ⟨a, rfl, rfl, rfl⟩ := exists_of_payload network hpayload
  exact ⟨a, read_of_spells ⟨letter, hs, hletter, hp, hpayload⟩, rfl, rfl, rfl⟩

theorem read_of_refused (h : Refused s fault) : read s = .error fault := by
  cases h with
  | network h =>
    rw [read]
    cases hs : s.toList with
    | nil => rfl
    | cons c cs =>
      have hc := ofLetter?_eq_none (h c (by rw [hs]; rfl))
      simp only [hc]
  | @protocol c network rest hs hc h =>
    obtain rfl := begins_iff.1 hc
    rw [read, hs]
    simp only [FilNetwork.ofLetter?_letter]
    cases rest with
    | nil => rfl
    | cons d payload =>
      have hd := ofDigit?_eq_none (h d rfl)
      simp only [hd]
  | @payload c network payload p hs hc h =>
    obtain rfl := begins_iff.1 hc
    rw [read_of_toList hs, ofParts, dif_neg (mt (accepts_iff p).1 h)]

/-- There is no third way. -/
theorem spells_or_refused (s : String) :
    (∃ a : FilAddress, Spells s a.network a.protocol.number a.payload.toList) ∨
      ∃ fault, Refused s fault := by
  by_cases hletter : ∃ c ∈ s.toList.head?, ∃ network, Begins c network
  · obtain ⟨c, hc, network, hbegins⟩ := hletter
    obtain ⟨rest, hs⟩ := List.head?_eq_some_iff.1 hc
    by_cases hdigit : ∃ d ∈ rest.head?, ∃ p ≤ 4, d = Nat.digitChar p
    · obtain ⟨d, hd, n, hn, rfl⟩ := hdigit
      obtain ⟨payload, rfl⟩ := List.head?_eq_some_iff.1 hd
      obtain ⟨p, rfl⟩ := exists_number_eq hn
      by_cases hpayload : IsPayload p.number payload
      · obtain ⟨a, rfl, rfl, rfl⟩ := exists_of_payload network hpayload
        exact .inl ⟨a, c, hs, hbegins, hn, hpayload⟩
      · exact .inr ⟨_, .payload hs hbegins hpayload⟩
    · refine .inr ⟨_, .protocol hs hbegins fun d hd p hp hdp => ?_⟩
      exact hdigit ⟨d, hd, p, hp, hdp⟩
  · refine .inr ⟨_, .network fun c hc network hbegins => ?_⟩
    exact hletter ⟨c, hc, network, hbegins⟩

theorem read_eq_ok_iff :
    read s = .ok a ↔ Spells s a.network a.protocol.number a.payload.toList :=
  eq_ok_iff_of_cases (fun _ => read_of_spells) (fun _ => read_of_refused) (spells_or_refused s)

theorem read_eq_error_iff : read s = .error fault ↔ Refused s fault :=
  eq_error_iff_of_cases (fun _ => read_of_spells) (fun _ => read_of_refused) (spells_or_refused s)

/-! ### From an address to its text and to its network -/

/-- A text that is read is the text of what is read from it. -/
theorem text_of_read (h : read s = .ok a) : a.text = s := by
  obtain ⟨letter, hs, hletter, -⟩ := read_eq_ok_iff.1 h
  rw [text, ← begins_iff.1 hletter, digit_eq, ← hs, String.ofList_toList]

/-- An address shows its network in its first letter. -/
theorem networkShown_text (a : FilAddress) : networkShown a.text = a.network := by
  rw [networkShown, text, String.toList_ofList, List.head?_cons]
  cases a.network <;> rfl

/-- An address shows its protocol in its second byte: the letter before it is one byte, and so is
    the digit, which does not come before `0`. -/
theorem protocolShown?_text (a : FilAddress) :
    protocolShown? a.text = some (UInt8.ofNat a.protocol.number) := by
  have hletter : ∃ b, String.utf8EncodeChar a.network.letter = [b] := by
    cases a.network <;> exact ⟨_, rfl⟩
  obtain ⟨b, hb⟩ := hletter
  rw [protocolShown?, text, String.toList_ofList, List.flatMap_cons, hb, List.flatMap_cons]
  cases a.protocol <;> rfl

theorem readAccount_eq_ok_iff {network : FilNetwork} :
    (filecoin network).readAccount s = .ok a ↔ read s = .ok a ∧ a.network = network := by
  simp only [filecoin]
  cases hread : read s with
  | error fault => simp
  | ok b =>
    simp only [Except.ok.injEq]
    by_cases hb : b.network = network
    · rw [if_pos hb, Except.ok.injEq]
      constructor
      · rintro rfl
        exact ⟨rfl, hb⟩
      · exact And.left
    · rw [if_neg hb]
      constructor
      · intro h
        cases h
      · rintro ⟨rfl, hnetwork⟩
        exact absurd hnetwork hb

/-- What is read as an address at all is an account of one network. -/
theorem exists_read_iff_existsUnique :
    (∃ a, read s = .ok a) ↔ ∃! network, ∃ a, (filecoin network).readAccount s = .ok a := by
  constructor
  · rintro ⟨a, ha⟩
    refine ⟨a.network, ⟨a, readAccount_eq_ok_iff.2 ⟨ha, rfl⟩⟩, ?_⟩
    rintro network ⟨b, hb⟩
    obtain ⟨hread, hnetwork⟩ := readAccount_eq_ok_iff.1 hb
    rw [ha, Except.ok.injEq] at hread
    rw [hread, hnetwork]
  · rintro ⟨network, ⟨a, ha⟩, -⟩
    exact ⟨a, (readAccount_eq_ok_iff.1 ha).1⟩

/-! ### All of it -/

/-- What becomes of a text that is read as an address. -/
structure Grammar (s : String) : Prop where
  /-- It is read exactly if it spells an address, and as that address. -/
  ok_iff : ∀ a, read s = .ok a ↔ Spells s a.network a.protocol.number a.payload.toList
  exists_ok_iff : (∃ a, read s = .ok a) ↔ ∃ network p payload, Spells s network p payload
  /-- Otherwise the first fault from the left is told. -/
  error_iff : ∀ fault, read s = .error fault ↔ Refused s fault
  /-- The address that is read has the text, in JSON too, and is read from either of them. -/
  written : ∀ a, read s = .ok a →
    a.text = s ∧ a.json = .string s ∧ read a.text = .ok a ∧ decode.run a.json.text = .ok a
  /-- Its network and the number of its protocol, at most 4, can be told from the text. -/
  shown : ∀ a, read s = .ok a → networkShown s = a.network ∧
    ∃ p, protocolShown? s = some p ∧ p.toNat = a.protocol.number ∧ p.toNat ≤ 4
  /-- A network's accounts are the addresses of the network. -/
  account_iff : ∀ network a,
    (filecoin network).readAccount s = .ok a ↔ read s = .ok a ∧ a.network = network
  /-- So the texts that are read are divided among the networks. -/
  one_network : (∃ a, read s = .ok a) ↔ ∃! network, ∃ a, (filecoin network).readAccount s = .ok a

/-- **The grammar of addresses.**  A text is read as an address exactly if it is a network's letter,
    the digit of a protocol and a payload of that protocol; the address is written as that text and
    is an account of that one network. -/
theorem grammar_of_texts (s : String) : Grammar s where
  ok_iff _ := read_eq_ok_iff
  exists_ok_iff := by
    constructor
    · rintro ⟨a, ha⟩
      exact ⟨_, _, _, read_eq_ok_iff.1 ha⟩
    · rintro ⟨network, n, payload, h⟩
      obtain ⟨a, ha, -⟩ := exists_of_spells h
      exact ⟨a, ha⟩
  error_iff _ := read_eq_error_iff
  written a ha := by
    obtain rfl := text_of_read ha
    exact ⟨rfl, rfl, ha, (Decoder.run_text decode a.json).trans (decode_found a)⟩
  shown a ha := by
    obtain rfl := text_of_read ha
    have hle := a.protocol.number_le
    have hnumber : (UInt8.ofNat a.protocol.number).toNat = a.protocol.number := by
      rw [UInt8.toNat_ofNat', Nat.mod_eq_of_lt (by omega)]
    exact ⟨networkShown_text a, _, protocolShown?_text a, hnumber, by omega⟩
  account_iff _ _ := readAccount_eq_ok_iff
  one_network := exists_read_iff_existsUnique

end FilAddress

end NonceAllocation
