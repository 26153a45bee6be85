import NonceAllocation.Url.Host
import NonceAllocation.Text.Split

namespace NonceAllocation

/-!
# URLs

A URL is kept in its parts, each in its normal form.  A text is read as a browser reads it: blanks
around it and line breaks inside it do not count, and six schemes are special, in that their URLs
have a host, that a backslash separates as a slash does, and that they know a port of their own.

* `Url` — the parts, with `Url.text`;
* `Url.read` — an absolute URL from its text.
-/

/-- A user's name and password, either of which may be empty. -/
structure Credentials where
  name : String
  password : String
deriving DecidableEq

namespace Credentials

def isEmpty (c : Credentials) : Bool := c.name.isEmpty && c.password.isEmpty

/-- The credentials in front of a host. -/
def text (c : Credentials) : String :=
  if c.isEmpty then ""
  else c.name ++ (if c.password.isEmpty then "" else ":" ++ c.password) ++ "@"

end Credentials

/-- The part of a URL that names a server. -/
structure Authority where
  credentials : Credentials
  host : Host
  /-- The port, if it is not the one of the scheme. -/
  port : Option Nat
deriving DecidableEq

namespace Authority

/-- The authority of a host alone. -/
def ofHost (host : Host) : Authority := ⟨⟨"", ""⟩, host, none⟩

def text (a : Authority) : String :=
  a.credentials.text ++ a.host.text ++ (a.port.elim "" fun p => ":" ++ toString p)

end Authority

/-- What a URL names on its server, or by itself. -/
inductive UrlPath where
  /-- A text without structure. -/
  | plain (s : String)
  /-- The segments, each behind a slash. -/
  | segments (ss : List String)
deriving DecidableEq

namespace UrlPath

def text : UrlPath → String
  | plain s => s
  | segments ss => String.join (ss.map ("/" ++ ·))

end UrlPath

structure Url where
  scheme : String
  authority : Option Authority
  path : UrlPath
  query : Option String
  fragment : Option String
deriving DecidableEq

namespace Url

/-- The text of the path.  A dot keeps a path whose first segment is empty from being taken for an
    authority. -/
def pathText (u : Url) : String :=
  match u.authority, u.path with
  | none, .segments ("" :: s :: ss) => "/." ++ (UrlPath.segments ("" :: s :: ss)).text
  | _, path => path.text

/-- The normal form. -/
def text (u : Url) : String :=
  u.scheme ++ ":" ++ (u.authority.elim "" fun a => "//" ++ a.text) ++ u.pathText
    ++ (u.query.elim "" fun q => "?" ++ q) ++ (u.fragment.elim "" fun f => "#" ++ f)

/-! ### Schemes -/

def file : String := "file"

/-- The port that a scheme stands for. -/
def defaultPort? (scheme : String) : Option Nat :=
  [("http", 80), ("https", 443), ("ws", 80), ("wss", 443), ("ftp", 21)].lookup scheme

def isSpecial (scheme : String) : Bool := scheme == file || (defaultPort? scheme).isSome

/-- Whether the URL points to a web server. -/
def isWeb (u : Url) : Bool := u.scheme == "http" || u.scheme == "https"

def isSchemeChar (c : Char) : Bool := c.isAlphanum || c == '+' || c == '-' || c == '.'

/-- The scheme in front of the first colon, in lower case, and what follows. -/
def splitScheme? (cs : List Char) : Option (String × List Char) := do
  let (scheme, rest) ← splitFirst ':' cs
  let first ← scheme.head?
  if first.isAlpha ∧ scheme.all isSchemeChar then
    some (String.ofList (scheme.map Char.toLower), rest)
  else none

/-! ### Paths -/

/-- Whether a segment is a letter and a colon or a bar, as drives are named. -/
def isDrive : List Char → Bool
  | [a, b] => a.isAlpha && (b == ':' || b == '|')
  | _ => false

/-- A segment with its escaped points replaced. -/
def unescapeDots : List Char → List Char
  | '%' :: '2' :: c :: cs =>
    if c = 'e' ∨ c = 'E' then '.' :: unescapeDots cs else '%' :: unescapeDots ('2' :: c :: cs)
  | c :: cs => c :: unescapeDots cs
  | [] => []

def isDouble (segment : List Char) : Bool := unescapeDots segment == ['.', '.']

def isSingle (segment : List Char) : Bool := unescapeDots segment == ['.']

/-- The segments without the last one, which stays if it names a drive. -/
def dropLastSegment (done : List (List Char)) : List (List Char) :=
  match done.getLast? with
  | some s => if isDrive s then done else done.dropLast
  | none => done

/-- A segment as it is kept: the first one of a file's path may name a drive. -/
def normalSegment (isFile : Bool) (done : List (List Char)) (segment : List Char) : List Char :=
  match segment with
  | [a, _] => if isFile ∧ done.all List.isEmpty ∧ isDrive segment then [a, ':'] else segment
  | _ => segment

/-- Walks the segments of a path behind `done`: one point stays where it is, two go back. -/
def walk (isFile : Bool) (done : List (List Char)) : List (List Char) → List (List Char)
  | [] => done
  | [s] =>
    -- A path that ends in points ends in a slash.
    if isDouble s then dropLastSegment done ++ [[]]
    else if isSingle s then done ++ [[]]
    else done ++ [normalSegment isFile done s]
  | s :: ss =>
    if isDouble s then walk isFile (dropLastSegment done) ss
    else if isSingle s then walk isFile done ss
    else walk isFile (done ++ [normalSegment isFile done s]) ss

/-- The path whose text, without its first slash, is given.  A file's path begins with one slash. -/
def readPath (scheme : String) (cs : List Char) : UrlPath :=
  let isSlash := fun c => c == '/' || (isSpecial scheme && c == '\\')
  let ss := (splitAll isSlash cs).map (Percent.encode Percent.inPath)
  let ss := walk (scheme == file) [] ss
  let ss :=
    if scheme == file then
      match ss.dropWhile List.isEmpty with
      | [] => [[]]
      | ss => ss
    else ss
  .segments (ss.map String.ofList)

/-- The path behind a host; that of a special URL is never empty. -/
def readPathStart (scheme : String) : List Char → UrlPath
  | [] => if isSpecial scheme then .segments [""] else .segments []
  | c :: cs =>
    if c = '/' ∨ (isSpecial scheme ∧ c = '\\') then readPath scheme cs
    else readPath scheme (c :: cs)

/-! ### Servers -/

/-- The texts up to a query or a fragment, and from there on. -/
def splitTail (cs : List Char) : List Char × List Char := cs.span fun c => !(c == '?' || c == '#')

/-- Whether a character ends the authority. -/
def endsAuthority (scheme : String) (c : Char) : Bool :=
  c == '/' || c == '?' || c == '#' || (isSpecial scheme && c == '\\')

/-- The texts in front of the last `@` and behind it. -/
def splitLastAt (cs : List Char) : Option (List Char × List Char) :=
  (splitFirst '@' cs.reverse).map fun p => (p.2.reverse, p.1.reverse)

/-- The credentials of a text, the name up to the first colon. -/
def readCredentials (cs : List Char) : Credentials :=
  let (name, password) := (splitFirst ':' cs).getD (cs, [])
  let encoded := fun cs => String.ofList (Percent.encode Percent.inCredentials cs)
  ⟨encoded name, encoded password⟩

/-- The host's text at the start of a text, and what follows it: a colon inside brackets does not
    end it. -/
def scanHost (scheme : String) : (inside : Bool) → List Char → List Char × List Char
  | _, [] => ([], [])
  | inside, c :: cs =>
    if endsAuthority scheme c ∨ (c = ':' ∧ inside = false) then ([], c :: cs)
    else
      let (host, rest) :=
        scanHost scheme (if c = '[' then true else if c = ']' then false else inside) cs
      (c :: host, rest)

/-- The port behind a colon, which may be left out, and what follows it. -/
def scanPort (scheme : String) (cs : List Char) : Except UrlFault (Option Nat × List Char) :=
  let (digits, rest) := cs.span Char.isDigit
  let n := Nat.ofDigitChars 10 digits 0
  if 65535 < n then .error .badPort
  else if rest.head?.all (fun c => "/\\?#".contains c) then
    .ok (if digits.isEmpty ∨ defaultPort? scheme = some n then none else some n, rest)
  else .error .badPort

/-- The host at the start of a text, and what follows it. -/
def readHost (scheme : String) (cs : List Char) : Except UrlFault (Host × List Char) := do
  let (text, rest) := scanHost scheme false cs
  if isSpecial scheme then
    if text.isEmpty then .error .emptyHost else .ok (← Host.readSpecial text, rest)
  else
    let host ← Host.readOpaque text
    if host.isEmpty ∧ rest.head? = some ':' then .error .emptyHost else .ok (host, rest)

/-- The authority at the start of a text, and what follows it. -/
def readAuthority (scheme : String) (cs : List Char) : Except UrlFault (Authority × List Char) := do
  let (front, rest) := cs.span fun c => !endsAuthority scheme c
  let (user, server) ← match splitLastAt front with
    | none => .ok (([] : List Char), cs)
    -- An `@` with nothing around it is no host, unless the text ends there.
    | some ([], []) => if rest.isEmpty then .ok ([], []) else .error .emptyHost
    | some (user, server) => .ok (user, server ++ rest)
  let credentials := readCredentials user
  let (host, rest) ← readHost scheme server
  let (port, rest) ← match rest with
    | ':' :: rest => scanPort scheme rest
    | rest => .ok (none, rest)
  if host.isEmpty ∧ credentials.isEmpty = false then .error .emptyHost
  else .ok (⟨credentials, host, port⟩, rest)

/-- Whether the path of a file begins with the name of a drive. -/
def UrlPath.hasDrive : UrlPath → Bool
  | .segments (s :: _) => isDrive s.toList
  | _ => false

/-- The host and the path of a file behind two slashes.  The name of a drive is no host, a path on a
    drive has none, and neither counts the name of this very computer. -/
def readFile (cs : List Char) : Except UrlFault (Host × UrlPath) := do
  let (front, rest) := cs.span fun c => !(c == '/' || c == '\\')
  if isDrive front then .ok (.name "", readPath file cs)
  else if front.isEmpty then .ok (.name "", readPathStart file rest)
  else
    let host ← Host.readSpecial front
    let path := readPathStart file rest
    -- The host is judged even where it is left out.
    .ok (if host = .name "localhost" ∨ UrlPath.hasDrive path then .name "" else host, path)

/-! ### Whole URLs -/

/-- Whether a character separates the parts of a special URL. -/
def isSlash (c : Char) : Bool := c == '/' || c == '\\'

/-- What stands in front of the query. -/
structure Body where
  authority : Option Authority
  path : UrlPath
  tail : List Char

/-- The authority at the start of a text and the path behind it. -/
def readServer (scheme : String) (cs : List Char) : Except UrlFault Body := do
  let (authority, rest) ← readAuthority scheme cs
  let (path, tail) := splitTail rest
  .ok ⟨some authority, readPathStart scheme path, tail⟩

/-- What follows the scheme's colon. -/
def readBody (scheme : String) (cs : List Char) : Except UrlFault Body := do
  let (front, tail) := splitTail cs
  if scheme = file then
    match front with
    | c :: d :: rest =>
      if isSlash c ∧ isSlash d then
        let (host, path) ← readFile rest
        .ok ⟨some (.ofHost host), path, tail⟩
      else .ok ⟨some (.ofHost (.name "")), readPathStart file front, tail⟩
    | _ => .ok ⟨some (.ofHost (.name "")), readPathStart file front, tail⟩
  else if isSpecial scheme then readServer scheme (cs.dropWhile isSlash)
  else
    match cs, front with
    | '/' :: '/' :: rest, _ => readServer scheme rest
    | _, '/' :: rest => .ok ⟨none, readPath scheme rest, tail⟩
    | _, _ => .ok ⟨none, .plain (String.ofList (Percent.encode Percent.nowhere front)), tail⟩

/-- Query and fragment. -/
def readTail (scheme : String) (cs : List Char) : Option String × Option String :=
  let (front, fragment) := match splitFirst '#' cs with
    | some (front, fragment) => (front, some fragment)
    | none => (cs, none)
  let excluded := if isSpecial scheme then Percent.inSpecialQuery else Percent.inQuery
  let query := match front with
    | '?' :: query => some (String.ofList (Percent.encode excluded query))
    | _ => none
  (query, fragment.map fun f => String.ofList (Percent.encode Percent.inFragment f))

/-- A text without the blanks and controls around it and without tabs and line breaks. -/
def cleaned (s : String) : List Char :=
  let isOuter := fun c : Char => decide (c ≤ ' ')
  (((s.toList.dropWhile isOuter).reverse.dropWhile isOuter).reverse).filter
    fun c => !(c == '\t' || c == '\n' || c == '\r')

/-- Reads an absolute URL. -/
def read (s : String) : Except UrlFault Url := do
  match splitScheme? (cleaned s) with
  | none => .error .relative
  | some (scheme, cs) =>
    let body ← readBody scheme cs
    let (query, fragment) := readTail scheme body.tail
    .ok ⟨scheme, body.authority, body.path, query, fragment⟩

end Url

end NonceAllocation
