import NonceAllocation.Json.Decode
import NonceAllocation.Text.Alphanumeric

namespace NonceAllocation

/-!
# Values from the environment

A configured text may name a variable of the environment instead of being the value itself, as
`$NAME` or `$` and the name in braces.

* `Environment.get?` — the value of a variable;
* `Environment.reference?` — the variable that a text names;
* `Environment.resolve` — the text, or the value of the variable that it names.
-/

/-- The variables of a process, by name. -/
structure Environment where
  bindings : List (String × String)

namespace Environment

/-- Each variable as a text, its name in front of an equals sign. -/
def entries (env : Environment) : List (List Char) :=
  env.bindings.map fun v => v.1.toList ++ '=' :: v.2.toList

/-- What follows `front` in a text that begins with it. -/
def behind? : (front cs : List Char) → Option (List Char)
  | [], cs => some cs
  | _ :: _, [] => none
  | f :: fs, c :: cs => if f = c then behind? fs cs else none

/-- The value of a variable.  No variable has a name with a NUL character. -/
def get? (env : Environment) (name : String) : Option String :=
  if '\x00' ∈ name.toList then none
  else (env.entries.findSome? (behind? (name.toList ++ ['=']))).map String.ofList

/-- Whether a character can stand in a name without braces. -/
def isNameChar (c : Char) : Bool := isAlphanumeric c || c == '_'

/-- The variable that a text names: any name that is not empty in braces, a name of letters, digits
    and underscores without. -/
def reference? (s : String) : Option String :=
  match s.toList with
  | '$' :: '\x7b' :: cs =>
    if cs.getLast? = some '\x7d' ∧ 1 < cs.length then some (String.ofList cs.dropLast) else none
  | '$' :: cs => if !cs.isEmpty ∧ cs.all isNameChar then some (String.ofList cs) else none
  | _ => none

/-- A text that names a variable which is not there. -/
structure Unset where
  name : String
  text : String
deriving DecidableEq

def Unset.message (e : Unset) : String :=
  "Environment variable '" ++ e.name ++ "' not found (referenced as '" ++ e.text ++ "')"

/-- The text, or the value of the variable that it names.  A value is not looked at again. -/
def resolve (env : Environment) (s : String) : Except Unset String :=
  match reference? s with
  | none => .ok s
  | some name =>
    match env.get? name with
    | some value => .ok value
    | none => .error ⟨name, s⟩

/-- A text, resolved, that `read` makes a value of. -/
def decode {α : Type} (env : Environment) (read : String → Except String α) : Decoder α :=
  fun d => do
  let s ← Decoder.text d
  let s ← (env.resolve s).mapError fun e => .refused e.message
  (read s).mapError fun message => .refused ("Failed to parse value: " ++ message)

end Environment

end NonceAllocation
