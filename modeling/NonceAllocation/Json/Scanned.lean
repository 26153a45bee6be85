namespace NonceAllocation

/-!
# Reading and skipping

A JSON text is looked at once, from left to right.  A value that is wanted is read, one that nobody
asks for is only skipped, and what is a fault in the one case may be none in the other.

* `Fault` — the two ways in which a text is no JSON;
* `Scanned` — a piece of a text, with what reading and what skipping it comes to.
-/

/-- Why a text is no JSON. -/
inductive Fault where
  /-- Something stands where it must not. -/
  | malformed
  /-- The text ends too early. -/
  | truncated
deriving DecidableEq

/-- A piece of a text that was looked at. -/
structure Scanned (α : Type) where
  /-- The outcome if the piece is read. -/
  read : Except Fault α
  /-- The outcome if it is only skipped. -/
  skip : Except Fault Unit

namespace Scanned

variable {α : Type}

/-- A piece without faults. -/
def ok (a : α) : Scanned α := ⟨.ok a, .ok ()⟩

/-- A piece whose fault shows either way. -/
def broken (f : Fault) : Scanned α := ⟨.error f, .error f⟩

end Scanned

end NonceAllocation
