import NonceAllocation.Proofs.Config.Reference
import NonceAllocation.Proofs.Json.Decode

namespace NonceAllocation

/-!
# Resolution — what is read of a text in each environment

A text that names a variable is read as the variable's value, any other one as it stands.

* `Environment.References.unique` — no text names two variables;
* `Environment.resolve_of_reference` — a reference stands for the value of its variable;
* `Environment.decode_of_reference`, `Environment.decode_of_literal` — what is made of either;
* `Environment.references_of_decode` — which can be told by reading it in an environment that is
  empty;
* `Environment.Resolution`, `Environment.resolution` — the JSON of any text.
-/

namespace Environment

variable {α : Type} {read : String → Except String α} {env : Environment}
  {raw t name name' : String} {d : Document}

theorem References.unique (h : References raw name) (h' : References raw name') : name = name' := by
  have hsome := (reference?_eq_some_iff.2 h).symm.trans (reference?_eq_some_iff.2 h')
  exact Option.some.inj hsome

theorem resolve_of_reference (h : References raw name) :
    env.resolve raw = (env.get? name).elim (.error ⟨name, raw⟩) .ok := by
  rw [resolve, reference?_eq_some_iff.2 h]
  cases hvalue : env.get? name <;> simp only [hvalue] <;> rfl

/-- What `read` makes of a value, which says so if it makes nothing of it. -/
def parse (read : String → Except String α) (s : String) : Except DecodeError α :=
  (read s).mapError fun message => .refused ("Failed to parse value: " ++ message)

/-- What is made of a reference to a variable that has the value, or none. -/
def fetch (read : String → Except String α) (raw name : String) :
    Option String → Except DecodeError α
  | some value => parse read value
  | none => .error (.refused (Unset.message ⟨name, raw⟩))

theorem decode_of_reference (hd : Decoder.text d = .ok raw) (h : References raw name) :
    env.decode read d = fetch read raw name (env.get? name) := by
  rw [decode, hd]
  show ((env.resolve raw).mapError _ >>= _) = _
  rw [resolve_of_reference h]
  cases env.get? name <;> rfl

theorem decode_of_literal (hd : Decoder.text d = .ok raw) (h : ¬ IsReference raw) :
    env.decode read d = parse read raw := by
  rw [decode, hd]
  show ((env.resolve raw).mapError _ >>= _) = _
  rw [resolve_of_literal env h]
  rfl

theorem Unset.message_eq (e : Unset) : e.message =
    "Environment variable '"
      ++ (e.name ++ ("' not found (referenced as '" ++ (e.text ++ "')"))) := by
  unfold message
  rw [String.append_assoc, String.append_assoc, String.append_assoc]

/-- A variable that is missing is told from a value that is refused by how the messages begin. -/
theorem parse_ne_unset (s : String) (e : Unset) : parse read s ≠ .error (.refused e.message) := by
  intro h
  obtain ⟨message, -, hmessage⟩ := mapError_eq_error_iff.1 h
  rw [DecodeError.refused.injEq, Unset.message_eq, ← String.toList_inj, String.toList_append,
    String.toList_append] at hmessage
  have hfailed : "Failed to parse value: ".toList.head? = some 'F' := by decide +kernel
  have hunset : "Environment variable '".toList.head? = some 'E' := by decide +kernel
  have hfirst := congrArg List.head? hmessage
  rw [List.head?_append, List.head?_append, hfailed, hunset] at hfirst
  cases hfirst

theorem Unset.message_inj : message ⟨name, raw⟩ = message ⟨name', raw⟩ ↔ name = name' := by
  rw [message_eq, message_eq, String.append_right_inj, String.append_left_inj]

theorem get?_empty : get? ⟨[]⟩ name = none := by
  simp [get?, entries]

/-- Where no variable is set, a text is reported as the reference that it is. -/
theorem references_of_decode (hd : Decoder.text d = .ok raw)
    (h : decode ⟨[]⟩ read d = fetch read raw name none) : References raw name := by
  by_cases hraw : IsReference raw
  · obtain ⟨name', hname'⟩ := hraw
    rw [decode_of_reference hd hname', get?_empty, fetch, fetch, Except.error.injEq,
      DecodeError.refused.injEq, Unset.message_inj] at h
    rwa [← h]
  · rw [decode_of_literal hd hraw] at h
    exact absurd h (parse_ne_unset raw _)

/-! ### The JSON of a text -/

/-- How the value that `read` makes of a text in an environment comes about. -/
structure Resolution (read : String → Except String α) (raw : String)
    (value : Environment → Except DecodeError α) : Prop where
  /-- The text is taken for a reference to a variable exactly if it is one: then the value is made
      of the variable's, and to miss the variable is an error. -/
  references_iff : ∀ name, References raw name ↔ ∀ env, value env =
    match env.get? name with
    | some s => (read s).mapError fun message => .refused ("Failed to parse value: " ++ message)
    | none => .error (.refused
        ("Environment variable '" ++ name ++ "' not found (referenced as '" ++ raw ++ "')"))
  unique : ∀ name name', References raw name → References raw name' → name = name'
  /-- Every other text is taken as it stands, whatever the environment. -/
  literal : ¬ IsReference raw → ∀ env, value env =
    (read raw).mapError fun message => .refused ("Failed to parse value: " ++ message)
  /-- Texts that begin as references do. -/
  lookalike : raw ∈ ["$", "$\x7b\x7d", "$\x7bX", "$a-b"] → ¬ IsReference raw

/-- **References are resolved, and nothing else.**  A JSON string that is `$` and a name, in braces
    unless the name is of letters, digits and underscores, is read as the value of that variable;
    any other string is read as itself. -/
theorem resolution (h : Decoder.text.run t = .ok raw) (read : String → Except String α) :
    Resolution read raw fun env => (env.decode read).run t := by
  obtain ⟨hd, hblanks⟩ := Decoder.run_eq_ok_iff.1 h
  have hrun : ∀ env : Environment,
      (env.decode read).run t = env.decode read (Document.scan t.toList).1 := fun env =>
    Decoder.run_of_scan (Prod.eta _).symm hblanks
  simp only [hrun]
  refine ⟨fun name => ?_, fun _ _ => References.unique, fun hraw _ => decode_of_literal hd hraw, ?_⟩
  · constructor
    · intro hname env
      rw [decode_of_reference hd hname]
      cases env.get? name <;> rfl
    · intro hall
      refine references_of_decode hd ((hall ⟨[]⟩).trans ?_)
      rw [get?_empty]
      rfl
  · intro hmem
    have hnone : ∀ s ∈ ["$", "$\x7b\x7d", "$\x7bX", "$a-b"], ¬ IsReference s := by decide +kernel
    exact hnone raw hmem

/-- A variable whose name is in braces may have any name, and its value is not looked at again. -/
theorem resolution_braced :
    Decoder.text.run "\"$\x7b$A\x7d\x7d\"" = .ok "$\x7b$A\x7d\x7d" ∧
      (decode ⟨[("$A\x7d", "$B")]⟩ .ok).run "\"$\x7b$A\x7d\x7d\""
        = (.ok "$B" : Except _ String) := by
  have htext : Decoder.text.run "\"$\x7b$A\x7d\x7d\"" = .ok "$\x7b$A\x7d\x7d" := by decide +kernel
  have hname : References "$\x7b$A\x7d\x7d" "$A\x7d" := ⟨by decide, .inl rfl⟩
  exact ⟨htext, ((resolution htext .ok).references_iff _).1 hname _⟩

end Environment

end NonceAllocation
