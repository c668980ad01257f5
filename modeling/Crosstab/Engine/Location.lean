import Crosstab.Engine.Catalog
import Crosstab.Engine.Error
import Crosstab.Text.Hexadecimal

/-!
# Where a database is

A database is named by a path or by an address. Two paths name no file: the empty one and
`:memory:`; such a database is gone with its connection. An address starts with `file:` and holds a
path, in which `%` and two digits stand for a byte, and perhaps settings:

    file:path?name=value&name=value#ignored

    text ──Location.ofText──▶ location ──connect──▶ catalog

Paths are shortened by their text alone, so that `missing/../file` is `file`; but a path that goes
on behind a file, or comes by one that is too long, leads nowhere.
-/

namespace Crosstab.Engine

/-! ### Paths -/

/-- A path from the root. -/
structure Path where
  /-- The names on the way, the last one first. -/
  names : List String
deriving DecidableEq, Repr

namespace Path

/-- The root. -/
def root : Path := ⟨[]⟩

/-- The path one part further on. -/
def step (path : Path) (part : String) : Path :=
  if part = "" ∨ part = "." then path
  else if part = ".." then ⟨path.names.drop 1⟩
  else ⟨part :: path.names⟩

/-- The paths after each of some parts. -/
def walk (path : Path) : List String → List Path
  | [] => []
  | part :: parts => path.step part :: walk (path.step part) parts

/-- Where a text starts to spell a path, seen from a directory. -/
def start (directory : Path) (text : String) : Path :=
  if text.toList.head? = some '/' then root else directory

/-- The paths that a text comes by, seen from a directory; it leads to the last one. -/
def reached (directory : Path) (text : String) : List Path :=
  (start directory text).walk (text.splitOn "/")

/-- The path that a text spells, seen from a directory. -/
def ofText (directory : Path) (text : String) : Path :=
  (text.splitOn "/").foldl step (start directory text)

/-- A path as text. -/
def toText (path : Path) : String := "/" ++ "/".intercalate path.names.reverse

/-- The path of what marks the file at a path as used. -/
def mark : Path → Path
  | ⟨[]⟩ => root
  | ⟨name :: outer⟩ => ⟨(name ++ ".lock") :: outer⟩

/-- The size of a path as text, in bytes. -/
def size (path : Path) : Nat :=
  Storage.total (path.names.map fun name => name.utf8ByteSize + 1)

end Path

/-! ### Addresses -/

/-- The bytes of an encoded text; a byte of zero ends it. -/
def decodedBytes : List Char → List UInt8
  | [] => []
  | '%' :: high :: low :: rest =>
    match Text.Hexadecimal.digit? high, Text.Hexadecimal.digit? low with
    | some h, some l =>
      if h * 16 + l = 0 then [] else UInt8.ofNat (h * 16 + l) :: decodedBytes rest
    | _, _ => 0x25 :: decodedBytes (high :: low :: rest)
  | c :: rest => (String.singleton c).toUTF8.data.toList ++ decodedBytes rest

/-- The text of bytes; in bytes that are not UTF-8, those beyond ASCII are replaced. -/
def textOfBytes (bytes : List UInt8) : String :=
  match String.fromUTF8? ⟨bytes.toArray⟩ with
  | some text => text
  | none =>
    String.ofList (bytes.map fun byte => if byte < 128 then Char.ofNat byte.toNat else '\ufffd')

/-- An encoded text, decoded. -/
def decoded (text : String) : String := textOfBytes (decodedBytes text.toList)

/-- The text in front of a character, and the text behind it. -/
def cutAt (c : Char) (cs : List Char) : String × String :=
  (String.ofList (cs.takeWhile (· != c)), String.ofList ((cs.dropWhile (· != c)).drop 1))

/-- Takes the name of a machine off the front of an address; it has to be this one. -/
def withoutAuthority (address : List Char) : Except EngineError (List Char) :=
  match address with
  | '/' :: '/' :: rest =>
    let authority := String.ofList (rest.takeWhile (· != '/'))
    if authority = "" ∨ authority = "localhost" then .ok (rest.dropWhile (· != '/'))
    else .error (.unknownAuthority authority)
  | _ => .ok address

/-- A setting: its name and its value, which is empty if none is written. -/
def setting (text : String) : String × String :=
  let (name, value) := cutAt '=' text.toList
  (decoded name, decoded value)

/-- The settings behind the path; one without a name is none. -/
def settings (text : String) : List (String × String) :=
  ((text.splitOn "&").map setting).filter fun entry => entry.1 != ""

/-! ### Modes -/

/-- How a database may be used. -/
inductive Mode where
  | readOnly
  /-- It may be written if it is there. -/
  | writing
  /-- It is created if it is not there. -/
  | creating
  /-- It is no file. -/
  | memory
deriving DecidableEq, Repr

namespace Mode

/-- The names of the modes. -/
def names : List (String × Mode) :=
  [("ro", .readOnly), ("rw", .writing), ("rwc", .creating), ("memory", .memory)]

/-- How much a mode allows. -/
def rank : Mode → Nat
  | .readOnly => 0
  | .writing => 1
  | .creating => 2
  | .memory => 3

/-- The mode behind a setting: a mode allows the ones below it, and memory is always allowed. -/
def after (mode : Mode) (entry : String × String) : Except EngineError Mode :=
  match entry with
  | ("mode", name) =>
    match names.lookup name with
    | none => .error (.unknownMode "access" name)
    | some asked =>
      if asked = .memory ∨ asked.rank ≤ mode.rank then .ok asked else .error (.modeNotAllowed name)
  | ("cache", name) =>
    if name = "shared" ∨ name = "private" then .ok mode else .error (.unknownMode "cache" name)
  | _ => .ok mode

end Mode

/-- The ways to reach files; `memdb` reaches none. -/
def fileSystems : List String := ["unix", "unix-none", "unix-dotfile", "unix-excl", "memdb"]

/-- A number that is not too large, and zero in place of others. -/
def boundedNumber (base mostDigits : Nat) (digits : List Char) : Nat :=
  let digits := digits.dropWhile (· == '0')
  let n := digits.foldl (fun n c => n * base + (Text.Hexadecimal.digit? c).getD 0) 0
  if digits.length ≤ mostDigits ∧ n < 2 ^ 31 then n else 0

/-- The number at the start of a text: digits, or hexadecimal ones behind `0x`. -/
def leadingNumber (text : List Char) : Nat :=
  let isHexadecimal (c : Char) : Bool := (Text.Hexadecimal.digit? c).isSome
  match text with
  | '0' :: x :: c :: rest =>
    if x.toLower = 'x' ∧ isHexadecimal c then
      boundedNumber 16 8 ((c :: rest).takeWhile isHexadecimal)
    else boundedNumber 10 10 (text.takeWhile Char.isDigit)
  | _ => boundedNumber 10 10 (text.takeWhile Char.isDigit)

/-- The setting is on: a number whose last byte is not zero, or a word for that. -/
def isOn (value : String) : Bool :=
  if value.toList.head?.any Char.isDigit then leadingNumber value.toList % 256 != 0
  else ["on", "yes", "true"].any fun word => Text.sameButCase word value

/-! ### Locations -/

/-- How a file is to be used. -/
structure FileUse where
  mode : Mode
  /-- Nothing changes the file. -/
  immutable : Bool
  /-- A file whose permissions a new file is to have. -/
  model : Option String
  /-- A directory beside the file marks it as used. -/
  isMarked : Bool
deriving DecidableEq, Repr

/-- A file is to be used, and created if it is not there. -/
def FileUse.plain : FileUse := ⟨.creating, false, none, false⟩

/-- Where a database is. -/
inductive Location where
  | memory
  /-- In a file without a name. -/
  | scratch
  /-- In a file, to which one gets by some paths. -/
  | file (path : Path) (reached : List Path) (use : FileUse)
deriving DecidableEq, Repr

namespace Location

/-- The location of a path, seen from a directory. -/
def ofPath (directory : Path) (path : String) (use : FileUse) : Location :=
  if path = ":memory:" ∨ use.mode = .memory then .memory
  else if path = "" then .scratch
  else .file (.ofText directory path) (Path.reached directory path) use

/-- The location that an address names behind its `file:`. -/
def ofAddress (directory : Path) (address : List Char) : Except EngineError Location := do
  let (path, settingsText) := cutAt '?' ((← withoutAuthority address).takeWhile (· != '#'))
  let entries := settings settingsText
  let mode ← entries.foldlM Mode.after .creating
  let fileSystem := (entries.reverse.lookup "vfs").getD "unix"
  if !fileSystems.contains fileSystem then throw (.unknownFileSystem fileSystem)
  let path := decoded path
  if fileSystem = "memdb" ∧ path ≠ "" then return .memory
  let immutable := (entries.lookup "immutable").any isOn
  let isMarked := fileSystem = "unix-dotfile" ∧ ¬ immutable ∧ ¬ (entries.lookup "nolock").any isOn
  return ofPath directory path ⟨mode, immutable, entries.lookup "modeof", isMarked⟩

/-- The location that a text names, seen from a directory. -/
def ofText (directory : Path) (text : String) : Except EngineError Location :=
  match text.toList with
  | 'f' :: 'i' :: 'l' :: 'e' :: ':' :: address => ofAddress directory address
  | _ => .ok (ofPath directory text .plain)

end Location

/-! ### Opening -/

/-- What stands at a path. -/
inductive Place where
  /-- One cannot even look there: it is behind a file, or its name is too long. -/
  | unreachable
  /-- No file, and none can be created. -/
  | blocked
  /-- A directory, which can be opened but not read or written. -/
  | directory
  /-- No file, but one can be created. -/
  | vacant
  /-- A file that holds a database. -/
  | database (main : Database)
  /-- A file that holds something else. -/
  | foreign

namespace Place

/-- One can look there. -/
def isReachable : Place → Bool
  | .unreachable => false
  | _ => true

/-- A file can be created there. -/
def isVacant : Place → Bool
  | .vacant => true
  | _ => false

/-- A directory. -/
def isDirectory : Place → Bool
  | .directory => true
  | _ => false

/-- A file or a directory. -/
def isThere : Place → Bool
  | .directory | .database _ | .foreign => true
  | _ => false

end Place

/-- Something stands where parts lead that are gone one after the other: on the way there are only
directories. -/
def leadsSomewhere (place : Path → Place) (path : Path) : List String → Bool
  | [] => (place path).isThere
  | part :: parts => (place path).isDirectory && leadsSomewhere place (path.step part) parts

/-- Something stands where a text leads. -/
def isThere (place : Path → Place) (directory : Path) (text : String) : Bool :=
  text != "" && leadsSomewhere place (.start directory text) (text.splitOn "/")

namespace Location

/-- What may be done with a file that holds a database, where `mark` is what stands at the path of
its mark. -/
def fileState (use : FileUse) (mark : Place) : FileState :=
  if use.isMarked ∧ mark.isThere then .unusable .locked
  else if use.isMarked ∧ ¬ mark.isVacant then .unusable .unreadable
  else if use.mode = .readOnly ∨ use.immutable then .readOnly
  else .writable

/-- The catalog of a connection to what stands at a path, which `text` names. -/
def connectFile (text : String) (path : Path) (use : FileUse) (state : FileState) :
    Place → Except EngineError Catalog
  | .unreachable | .blocked => .error (.cannotOpen text)
  | .directory => .error (if use.mode = .readOnly then .unreadable else .cannotOpen text)
  | .vacant =>
    if use.mode = .creating then .ok (.connected (.file path.toText state) Schema.main.empty)
    else .error (.cannotOpen text)
  | .database main => .ok (.connected (.file path.toText state) main)
  | .foreign =>
    let state := if state.isUsable then .unusable .notADatabase else state
    .ok (.connected (.file path.toText state) Schema.main.empty)

/-- The longest path that one may come by. -/
def longestReached : Nat := 511

/-- The longest path of a database. -/
def longestPath : Nat := 504

/-- A path of a database can be looked for: it is not the root, nor too long, and one can look at
all paths on the way. -/
def canLookFor (place : Path → Place) (path : Path) (reached : List Path) : Bool :=
  path != .root && path.size ≤ longestPath &&
    reached.all fun other => other.size ≤ longestReached && (place other).isReachable

/-- The catalog of a connection to a location that `text` names, seen from a directory. -/
def connect (directory : Path) (text : String) (place : Path → Place) :
    Location → Except EngineError Catalog
  | .memory => .ok (.connected .memory Schema.main.empty)
  | .scratch => .ok (.connected .scratch Schema.main.empty)
  | .file path reached use =>
    if !canLookFor place path reached then .error (.cannotOpen text)
    else if use.model.any fun model => !isThere place directory model then .error .unreadable
    else connectFile text path use (fileState use (place path.mark)) (place path)

/-- The catalog of a connection to what a text names, seen from a directory. -/
def connectTo (directory : Path) (text : String) (place : Path → Place) :
    Except EngineError Catalog := do
  (← ofText directory text).connect directory text place

end Location

end Crosstab.Engine
