import NonceAllocation.Text.Composition
import NonceAllocation.Text.Direction
import NonceAllocation.Text.Joining
import NonceAllocation.Text.Mark
import NonceAllocation.Text.Punycode
import NonceAllocation.Text.Split
import NonceAllocation.Url.Domain.Mapping

namespace NonceAllocation

/-!
# Domain names

A name is made of labels between points.  Labels with characters beyond ASCII are written in ASCII
behind `xn--`.

* `Domain.ascii?` — a name in its normal form: mapped, composed, checked and written in ASCII,
  without characters that have a meaning elsewhere in a URL.
-/

namespace Domain

/-- Whether a character must not stand in a name. -/
def isForbidden (c : Char) : Bool :=
  decide (c ≤ ' ') || c == '\x7f' || "%#/:<>?@[\\]^|".contains c

/-- The labels between points. -/
def labels (cs : List Char) : List (List Char) := splitAll (· == '.') cs

def isAscii (cs : List Char) : Bool := cs.all fun c => decide (c.toNat < 128)

/-- Whether a mark takes a vowel away. -/
def takesVowel (c : Char) : Bool := Composition.classOf c == 9

/-- Whether a label stays as it is when it is mapped and composed, begins with no mark, and holds no
    joiner in vain. -/
def isValid (label : List Char) : Bool :=
  label.all (fun c => mapChar? c == some [c]) && Composition.compose label == label &&
    !label.head?.any isMark && Joining.allowed takesVowel [] label

/-- What a label says: one behind `xn--` is decoded, and must need that. -/
def meaning? (label : List Char) : Option (List Char) :=
  match label with
  | 'x' :: 'n' :: '-' :: '-' :: cs => do
    let text ← Punycode.decode? cs
    if isAscii text ∨ isValid text = false then none else some text
  | _ => if isAscii label ∨ isValid label then some label else none

/-- A label in ASCII. -/
def asciiLabel (label : List Char) : List Char :=
  if isAscii label then label else 'x' :: 'n' :: '-' :: '-' :: Punycode.encode label

/-- Whether nobody can mistake where a label ends: that matters only where one is written from right
    to left. -/
def isClear (ls : List (List Char)) : Bool :=
  let ds := ls.map fun l => l.map Direction.of
  !ds.any (fun d => d.any Direction.turns) || ds.all Direction.isClear

/-- The normal form of a name. -/
def ascii? (bytes : List UInt8) : Option (List Char) := do
  let s ← String.fromUTF8? (ByteArray.mk bytes.toArray)
  let mapped ← s.toList.mapM mapChar?
  let ls ← (labels (Composition.compose mapped.flatten)).mapM meaning?
  let name := List.intercalate ['.'] (ls.map asciiLabel)
  if name.any isForbidden ∨ isClear ls = false then none else some name

end Domain

end NonceAllocation
