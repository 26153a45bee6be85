import NonceAllocation.Json.Document
import NonceAllocation.Decimal.Shortest
import NonceAllocation.Text.Quoted
import NonceAllocation.Unsigned

namespace NonceAllocation

/-!
# Decoding documents

A decoder walks a document from left to right and stops at the first thing that is wrong, be it a
fault of the text or a value that does not fit.

* `DecodeError` — what can be wrong, with its wording;
* `Decoder` — the decoders of single values: texts, whole numbers, names of a fixed set, optional
  values, lists;
* `Members.collect`, `Items.required`, `Items.optional`, `Items.close` — the two ways to write a
  structure: as an object of its fields, or as a list of them in the order of their declaration;
* `Decoder.run` — a decoder on a whole text.
-/

/-- A value that was found in the stead of another. -/
inductive Found where
  | null
  | bool (b : Bool)
  | number (n : Number)
  | string (s : String)
  | sequence
  | map
deriving DecidableEq

/-- Why a text does not decode. -/
inductive DecodeError where
  /-- The text is no JSON. -/
  | fault (f : Fault)
  | invalidType (found : Found) (expected : String)
  | invalidValue (found : Found) (expected : String)
  | invalidLength (length : Nat) (expected : String)
  | missingField (name : String)
  | duplicateField (name : String)
  | unknownVariant (name : String) (known : List String)
  /-- The value is refused by the type it is decoded to. -/
  | refused (message : String)
deriving DecidableEq

/-! ### Wordings -/

/-- A text between backquotes, as messages name fields and values. -/
def ticked (s : String) : String := "\x60" ++ s ++ "\x60"

def Number.text : Number → String
  | .unsigned n => "integer " ++ ticked (toString n)
  | .negative n => "integer " ++ ticked ("-" ++ toString n)
  | .double minus x => "floating point " ++ ticked ((if minus then "-" else "") ++ x.text)

def Found.text : Found → String
  | null => "null"
  | bool b => "boolean " ++ ticked (if b then "true" else "false")
  | number n => n.text
  | string s => "string " ++ quoted s
  | sequence => "sequence"
  | map => "map"

/-- The names that are known: two of them, or a list. -/
def knownText : List String → String
  | [a, b] => ticked a ++ " or " ++ ticked b
  | names => "one of " ++ ", ".intercalate (names.map ticked)

/-- The wording of an error; faults of the text have none. -/
def DecodeError.message? : DecodeError → Option String
  | fault _ => none
  | invalidType found expected => some ("invalid type: " ++ found.text ++ ", expected " ++ expected)
  | invalidValue found expected =>
    some ("invalid value: " ++ found.text ++ ", expected " ++ expected)
  | invalidLength length expected =>
    some ("invalid length " ++ toString length ++ ", expected " ++ expected)
  | missingField name => some ("missing field " ++ ticked name)
  | duplicateField name => some ("duplicate field " ++ ticked name)
  | unknownVariant name known =>
    some ("unknown variant " ++ ticked name ++ ", expected " ++ knownText known)
  | refused message => some message

/-! ### Faults as errors -/

/-- An outcome of the scan inside a decoder. -/
def checked {α : Type} (r : Except Fault α) : Except DecodeError α := r.mapError .fault

/-- The error of a value that is not of the expected type. -/
def Document.mismatch (expected : String) : Document → DecodeError
  | .null => .invalidType .null expected
  | .bool b => .invalidType (.bool b) expected
  | .number n =>
    match n.read with
    | .ok n => .invalidType (.number n) expected
    | .error f => .fault f
  | .string s =>
    match s.read with
    | .ok s => .invalidType (.string s) expected
    | .error f => .fault f
  | .array _ => .invalidType .sequence expected
  | .object _ => .invalidType .map expected
  | .garbled f => .fault f
  | .missing => .fault .truncated

/-! ### Decoders of single values -/

/-- Decodes a document to a value. -/
abbrev Decoder (α : Type) := Document → Except DecodeError α

namespace Decoder

variable {α : Type}

/-- A text, described as `expected` where it is missed. -/
def textAs (expected : String) : Decoder String
  | .string s => checked s.read
  | d => .error (d.mismatch expected)

def text : Decoder String := textAs "a string"

/-- A text that `read` makes a value of. -/
def parsed (read : String → Except String α) : Decoder α := fun d => do
  let s ← text d
  (read s).mapError .refused

/-- A whole number of a width. -/
def unsigned (bits : Nat) : Decoder (Unsigned bits)
  | .number n => do
    let n ← checked n.read
    let expected := "u" ++ toString bits
    match n with
    | .unsigned m =>
      match Unsigned.ofNat? bits m with
      | some m => .ok m
      | none => .error (.invalidValue (.number n) expected)
    | .negative _ => .error (.invalidValue (.number n) expected)
    | .double _ _ => .error (.invalidType (.number n) expected)
  | d => .error (d.mismatch ("u" ++ toString bits))

/-- `null`, which stands for nothing else. -/
def unit : Decoder Unit
  | .null => .ok ()
  | d => .error (d.mismatch "unit")

/-- A value, or `null` for none. -/
def option (decode : Decoder α) : Decoder (Option α)
  | .null => .ok none
  | d => (decode d).map some

/-- A name of a fixed set. -/
def ofName (values : List α) (name : α → String) (s : String) : Except DecodeError α :=
  match values.find? fun v => name v == s with
  | some v => .ok v
  | none => .error (.unknownVariant s (values.map name))

/-- The end of an object of which one member has been decoded. -/
def onlyMember : Members → Except DecodeError Unit
  | .done .closed => .ok ()
  | .done .cut => .error (.fault .truncated)
  | _ => .error (.fault .malformed)

/-- One of a fixed set of values, by its name: as a text, or as an object whose only member has that
    name and the value `null`. -/
def enum (values : List α) (name : α → String) : Decoder α
  | .string s => do ofName values name (← checked s.read)
  | .object (.more key value _ rest) => do
    let v ← ofName values name (← checked key.read)
    unit value
    onlyMember rest
    .ok v
  | .object (.done .cut) => .error (.fault .truncated)
  | .missing => .error (.fault .truncated)
  | _ => .error (.fault .malformed)

/-- The items of a list. -/
def items (decode : Decoder α) : Items → Except DecodeError (List α)
  | .done ending => (checked ending.check).map fun _ => []
  | .more value rest => do
    let a ← decode value
    let as ← items decode rest
    .ok (a :: as)

/-- A list. -/
def list (decode : Decoder α) : Decoder (List α)
  | .array is => items decode is
  | d => .error (d.mismatch "a sequence")

/-- Whether only blanks are left. -/
def onlyBlanks (rest : Option (List Char)) : Bool :=
  match rest with
  | some cs => (Document.skipBlanks cs).isEmpty
  | none => false

/-- Decodes a whole text: a value with nothing but blanks around it. -/
def run (decode : Decoder α) (s : String) : Except DecodeError α :=
  let (d, rest) := Document.scan s.toList
  do
    let a ← decode d
    if onlyBlanks rest then .ok a else .error (.fault .malformed)

end Decoder

/-! ### Structures -/

/-- Walks the members of an object: `step` takes each key and value in turn. -/
def Members.collect {σ : Type} (step : σ → String → Document → Except DecodeError σ) :
    σ → Members → Except DecodeError σ
  | s, .done ending => (checked ending.check).map fun _ => s
  | s, .more key value _ rest => do
    let k ← checked key.read
    let s ← step s k value
    rest.collect step s

namespace Decoder

/-- A field that is found in an object; it must not have been found before. -/
def once {α : Type} (name : String) (before : Option α) (decode : Decoder α) (d : Document) :
    Except DecodeError (Option α) :=
  match before with
  | some _ => .error (.duplicateField name)
  | none => (decode d).map some

/-- A member that nobody asks for. -/
def ignored {σ : Type} (s : σ) (d : Document) : Except DecodeError σ :=
  (checked d.skip).map fun _ => s

/-- A field without which there is no value. -/
def needed {α : Type} (name : String) (value : Option α) : Except DecodeError α :=
  match value with
  | some a => .ok a
  | none => .error (.missingField name)

end Decoder

/-- The description of a structure of `count` fields. -/
def described (struct : String) (count : Nat) : String :=
  "struct " ++ struct ++ " with " ++ toString count
    ++ (if count = 1 then " element" else " elements")

namespace Items

variable {α : Type}

/-- The first item if there is one, and those behind it. -/
def optional (decode : Decoder α) : Items → Except DecodeError (Option α × Items)
  | .done ending => (checked ending.check).map fun _ => (none, .done ending)
  | .more value rest => (decode value).map fun a => (some a, rest)

/-- The first item, which must be there, and those behind it; `index` items came before it. -/
def required (index : Nat) (expected : String) (decode : Decoder α) (is : Items) :
    Except DecodeError (α × Items) := do
  match ← is.optional decode with
  | (some a, rest) => .ok (a, rest)
  | (none, _) => .error (.invalidLength index expected)

/-- The end of a list all of whose items have been decoded. -/
def close : Items → Except DecodeError Unit
  | .done .closed => .ok ()
  | .done .cut => .error (.fault .truncated)
  | _ => .error (.fault .malformed)

end Items

end NonceAllocation
