import NonceAllocation.Chain.Id

namespace NonceAllocation

/-!
# Directories: one entry per chain

* `Directory.put` — enters a value for a chain, in the stead of an earlier one;
* `Directory.get?`, `Directory.ofFamily`, `Directory.ids` — looking up.
-/

/-- Values by chain identifier, in the order in which the chains were first entered. -/
structure Directory (α : Type) where
  entries : List (ChainId × α)

namespace Directory

variable {α : Type}

def empty : Directory α := ⟨[]⟩

/-- Enters `a` under `c` among `entries`, in the stead of an earlier entry. -/
def place (c : ChainId) (a : α) : List (ChainId × α) → List (ChainId × α)
  | [] => [(c, a)]
  | e :: es => if e.1 = c then (c, a) :: es else e :: place c a es

def put (d : Directory α) (c : ChainId) (a : α) : Directory α := ⟨place c a d.entries⟩

/-- The entry of exactly this chain. -/
def get? (d : Directory α) (c : ChainId) : Option α := d.entries.lookup c

/-- The entries whose chain belongs to the family. -/
def ofFamily (d : Directory α) (family : String) : List α :=
  (d.entries.filter fun e => e.1.family == family).map Prod.snd

def ids (d : Directory α) : List ChainId := d.entries.map Prod.fst

def size (d : Directory α) : Nat := d.entries.length

def isEmpty (d : Directory α) : Bool := d.entries.isEmpty

/-- The directory that results from entering the values in turn. -/
def ofList (es : List (ChainId × α)) : Directory α := es.foldl (fun d e => d.put e.1 e.2) empty

end Directory

end NonceAllocation
