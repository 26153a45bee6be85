import NonceAllocation.Config

namespace NonceAllocation

/-!
# The configuration file

* `Folder` — files and folders by their paths, and `Folder.readText`;
* `Config.defaultPath` — where the configuration is, unless told otherwise;
* `Config.load` — the configuration of a file.
-/

/-- What a path leads to. -/
inductive FolderEntry where
  | file (bytes : List UInt8)
  | folder

/-- Files and folders, each under its path inside the folder. -/
structure Folder where
  entries : List (List String × FolderEntry)

/-- Why a file cannot be read as text. -/
inductive FileFault where
  | notFound
  | isFolder
  | notFolder
  | nameTooLong
  | nulInPath
  | notUtf8
deriving DecidableEq

/-- The wording of each cause, as the system gives it. -/
def FileFault.message : FileFault → String
  | .notFound => "No such file or directory (os error 2)"
  | .isFolder => "Is a directory (os error 21)"
  | .notFolder => "Not a directory (os error 20)"
  | .nameTooLong => "File name too long (os error 36)"
  | .nulInPath => "file name contained an unexpected NUL byte"
  | .notUtf8 => "stream did not contain valid UTF-8"

namespace Folder

/-- The most bytes that a name can have. -/
def maxName : Nat := 255

/-- The most bytes that a path can have. -/
def maxPath : Nat := 4095

/-- What the names `place` lead to; whatever holds something else is a folder. -/
def entry? (f : Folder) (place : List String) : Option FolderEntry :=
  if place.isEmpty then some .folder
  else
    match f.entries.lookup place with
    | some e => some e
    | none => if f.entries.any (fun e => place.isPrefixOf e.1) then some .folder else none

/-- Follows names from a folder that is not in this one, of which nothing is known to exist but the
    folders that it lies in. -/
def resolveOutside : List String → Except FileFault FolderEntry
  | [] => .ok .folder
  | name :: names =>
    if name = "" ∨ name = "." ∨ name = ".." then resolveOutside names
    else if maxName < name.utf8ByteSize then .error .nameTooLong
    else .error .notFound

/-- Follows names from the place `place`; above the folder the way leads outside. -/
def resolve (f : Folder) (place : List String) : List String → Except FileFault FolderEntry
  | [] => (f.entry? place).elim (.error .notFound) .ok
  | name :: names =>
    match f.entry? place with
    | none => .error .notFound
    | some (.file _) => .error .notFolder
    | some .folder =>
      if name = "" ∨ name = "." then f.resolve place names
      else if name = ".." then
        if place.isEmpty then resolveOutside names else f.resolve place.dropLast names
      else if maxName < name.utf8ByteSize then .error .nameTooLong
      else f.resolve (place ++ [name]) names

/-- What a path leads to; it begins in the folder, or outside with a slash. -/
def follow (f : Folder) (path : String) : Except FileFault FolderEntry :=
  if '\x00' ∈ path.toList then .error .nulInPath
  else if path.isEmpty then .error .notFound
  else if maxPath < path.utf8ByteSize then .error .nameTooLong
  else if path.toList.head? = some '/' then resolveOutside (path.splitOn "/")
  else f.resolve [] (path.splitOn "/")

/-- The text of the file at a path. -/
def readText (f : Folder) (path : String) : Except FileFault String := do
  match ← f.follow path with
  | .folder => .error .isFolder
  | .file bytes => (String.fromUTF8? (ByteArray.mk bytes.toArray)).elim (.error .notUtf8) .ok

end Folder

/-- Why there is no configuration. -/
inductive ConfigError where
  | unreadable (path : String) (fault : FileFault)
  | undecodable (error : DecodeError)
deriving DecidableEq

/-- The wording of an error; faults of the text have none. -/
def ConfigError.message? : ConfigError → Option String
  | .unreadable path fault =>
    some ("Failed to read config file at " ++ path ++ ": " ++ fault.message)
  | .undecodable error => error.message?.map ("Failed to parse config file: " ++ ·)

namespace Config

/-- The variable that says where the configuration is. -/
def pathVariable : String := "WALLET_NONCE_CONFIG"

/-- Where the configuration is, unless told otherwise. -/
def defaultPath (env : Environment) : String := (env.get? pathVariable).getD "config.json"

/-- The configuration of the file at a path. -/
def load (env : Environment) (folder : Folder) (path : String) : Except ConfigError Config := do
  let s ← (folder.readText path).mapError (.unreadable path)
  (read env s).mapError .undecodable

end Config

end NonceAllocation
