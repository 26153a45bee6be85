import NonceAllocation.Json.Number
import NonceAllocation.Json.Escape

namespace NonceAllocation

/-!
# JSON documents as they are found

A document keeps what a text holds in the order in which it is found, repeated members and damage
included, so that whoever walks it from left to right meets the same first fault as somebody who
reads the text.

* `Document`, `Items`, `Members` — the tree; a list or an object ends in an `Ending`;
* `Document.scan` — the document at the start of a text;
* `Document.skip` — the first fault of a value that nobody asks for.
-/

/-- How the items of a list, or the members of an object, end. -/
inductive Ending where
  /-- With the closing bracket. -/
  | closed
  /-- The text ends where a comma or the bracket is due. -/
  | cut
  /-- With a comma that nothing follows: the bracket stands there, or the text ends. -/
  | comma (fault : Fault)
  /-- With something else. -/
  | garbled
  /-- Inside the last of them, where the scan ended. -/
  | unread
deriving DecidableEq

mutual

/-- A JSON value as it is found. -/
inductive Document where
  | null
  | bool (b : Bool)
  | number (n : Scanned Number)
  | string (s : Scanned String)
  | array (items : Items)
  | object (members : Members)
  /-- Something that is no value. -/
  | garbled (fault : Fault)
  /-- The text ends where a value is due. -/
  | missing

/-- The items of a list. -/
inductive Items where
  | done (ending : Ending)
  | more (value : Document) (rest : Items)

/-- The members of an object, each with the text of its value. -/
inductive Members where
  | done (ending : Ending)
  | more (key : Scanned String) (value : Document) (raw : String) (rest : Members)

end

namespace Document

/-! ### Scanning -/

def isBlank (c : Char) : Bool := c == ' ' || c == '\n' || c == '\t' || c == '\r'

/-- The text from its first character that is no blank. -/
def skipBlanks (cs : List Char) : List Char := cs.dropWhile isBlank

/-- What follows the word `expected`. -/
def scanWord : List Char → List Char → Except Fault (List Char)
  | [], cs => .ok cs
  | _ :: _, [] => .error .truncated
  | e :: es, c :: cs => if c = e then scanWord es cs else .error .malformed

/-- A value that is written as a word whose first letter has been seen. -/
def scanName (value : Document) (tail cs : List Char) : Document × Option (List Char) :=
  match scanWord tail cs with
  | .ok rest => (value, some rest)
  | .error f => (.garbled f, none)

mutual

/-- The value at the start of a text, and what follows it; nothing follows a value that is broken.
    No value takes more steps than `fuel`. -/
def scanValue : Nat → List Char → Document × Option (List Char)
  | 0, _ => (.missing, none)
  | fuel + 1, cs =>
    match skipBlanks cs with
    | [] => (.missing, none)
    | '"' :: cs =>
      let (s, rest) := Escape.scan cs
      (.string s, rest)
    | '[' :: cs =>
      let (items, rest) := scanItems fuel cs
      (.array items, rest)
    | '\x7b' :: cs =>
      let (members, rest) := scanMembers fuel cs
      (.object members, rest)
    | 'n' :: cs => scanName .null ['u', 'l', 'l'] cs
    | 't' :: cs => scanName (.bool true) ['r', 'u', 'e'] cs
    | 'f' :: cs => scanName (.bool false) ['a', 'l', 's', 'e'] cs
    | c :: cs =>
      if c = '-' ∨ c.isDigit then
        let (n, rest) := Number.scan (c :: cs)
        (.number n, rest)
      else (.garbled .malformed, none)

/-- The items behind an opening bracket. -/
def scanItems : Nat → List Char → Items × Option (List Char)
  | 0, _ => (.done .unread, none)
  | fuel + 1, cs =>
    match skipBlanks cs with
    | [] => (.done .cut, none)
    | ']' :: rest => (.done .closed, some rest)
    | cs => scanItem fuel cs

/-- An item and those behind it. -/
def scanItem : Nat → List Char → Items × Option (List Char)
  | 0, _ => (.done .unread, none)
  | fuel + 1, cs =>
    match scanValue fuel cs with
    | (value, none) => (.more value (.done .unread), none)
    | (value, some rest) =>
      let (items, rest) := scanMoreItems fuel rest
      (.more value items, rest)

/-- What follows an item. -/
def scanMoreItems : Nat → List Char → Items × Option (List Char)
  | 0, _ => (.done .unread, none)
  | fuel + 1, cs =>
    match skipBlanks cs with
    | [] => (.done .cut, none)
    | ']' :: rest => (.done .closed, some rest)
    | ',' :: cs =>
      match skipBlanks cs with
      | [] => (.done (.comma .truncated), none)
      | ']' :: rest => (.done (.comma .malformed), some rest)
      | cs => scanItem fuel cs
    | _ => (.done .garbled, none)

/-- The members behind an opening brace. -/
def scanMembers : Nat → List Char → Members × Option (List Char)
  | 0, _ => (.done .unread, none)
  | fuel + 1, cs =>
    match skipBlanks cs with
    | [] => (.done .cut, none)
    | '\x7d' :: rest => (.done .closed, some rest)
    | '"' :: cs => scanMember fuel cs
    | _ => (.done .garbled, none)

/-- A member, behind the opening mark of its key, and those behind it. -/
def scanMember : Nat → List Char → Members × Option (List Char)
  | 0, _ => (.done .unread, none)
  | fuel + 1, cs =>
    match Escape.scan cs with
    | (key, none) => (.more key .missing "" (.done .unread), none)
    | (key, some cs) =>
      match skipBlanks cs with
      | [] => (.more key .missing "" (.done .unread), none)
      | ':' :: cs =>
        let cs := skipBlanks cs
        match scanValue fuel cs with
        | (value, none) => (.more key value "" (.done .unread), none)
        | (value, some rest) =>
          -- The value's own text: what its scan has taken.
          let raw := String.ofList (cs.take (cs.length - rest.length))
          let (members, rest) := scanMoreMembers fuel rest
          (.more key value raw members, rest)
      | _ => (.more key (.garbled .malformed) "" (.done .unread), none)

/-- What follows a member. -/
def scanMoreMembers : Nat → List Char → Members × Option (List Char)
  | 0, _ => (.done .unread, none)
  | fuel + 1, cs =>
    match skipBlanks cs with
    | [] => (.done .cut, none)
    | '\x7d' :: rest => (.done .closed, some rest)
    | ',' :: cs =>
      match skipBlanks cs with
      | [] => (.done (.comma .truncated), none)
      | '\x7d' :: rest => (.done (.comma .malformed), some rest)
      | '"' :: cs => scanMember fuel cs
      | _ => (.done .garbled, none)
    | _ => (.done .garbled, none)

end

/-- The document at the start of a text, and what follows it.  A value of one character takes up to
    three steps. -/
def scan (cs : List Char) : Document × Option (List Char) := scanValue (3 * cs.length + 1) cs

end Document

/-! ### Skipping -/

/-- The fault of an ending, where an item or a member is looked for. -/
def Ending.check : Ending → Except Fault Unit
  | .closed => .ok ()
  | .cut => .error .truncated
  | .comma f => .error f
  | .garbled => .error .malformed
  | .unread => .error .malformed

mutual

/-- The first fault of a value that nobody asks for. -/
def Document.skip : Document → Except Fault Unit
  | .null => .ok ()
  | .bool _ => .ok ()
  | .number n => n.skip
  | .string s => s.skip
  | .array items => items.skip
  | .object members => members.skip
  | .garbled f => .error f
  | .missing => .error .truncated

def Items.skip : Items → Except Fault Unit
  | .done ending => ending.check
  | .more value rest =>
    match value.skip with
    | .ok () => rest.skip
    | .error f => .error f

def Members.skip : Members → Except Fault Unit
  | .done ending => ending.check
  | .more key value _ rest =>
    match key.skip with
    | .error f => .error f
    | .ok () =>
      match value.skip with
      | .ok () => rest.skip
      | .error f => .error f

end

end NonceAllocation
