/-
# ScenarioGraph.CommandLine.Files -- what a command can read

A command sees what reading a path gives, and whether a file stands there; a
file can be there and not be readable.  `Files.inDirectory` is the view from a
directory that holds files and empty directories and nothing else.
-/

namespace ScenarioGraph.CommandLine

set_option autoImplicit false

/-- Why a path gives no text. -/
inductive ReadFailure where
  | missing
  | denied
  | directory
  /-- A file stands where the path has a directory. -/
  | notDirectory
  /-- The path, or a name in it, is longer than names may be. -/
  | nameTooLong
  /-- The bytes are no UTF-8. -/
  | notText
deriving DecidableEq

def ReadFailure.message : ReadFailure → String
  | missing => "No such file or directory (os error 2)"
  | denied => "Permission denied (os error 13)"
  | directory => "Is a directory (os error 21)"
  | notDirectory => "Not a directory (os error 20)"
  | nameTooLong => "File name too long (os error 36)"
  | notText => "stream did not contain valid UTF-8"

structure Files where
  /-- The bytes at a path. -/
  read : String → Except ReadFailure ByteArray
  /-- Whether a file stands at a path, readable or not. -/
  isFile : String → Bool

namespace Files

def readText (files : Files) (path : String) : Except ReadFailure String := do
  match String.fromUTF8? (← files.read path) with
  | some text => .ok text
  | none => .error .notText

/-! ## A directory -/

/-- The most bytes that a name may have. -/
def nameLimit : Nat := 255

/-- The most bytes that a path may have. -/
def pathLimit : Nat := 4095

inductive Entry where
  | file (bytes : ByteArray)
  | directory

/-- A place that a path leads to. -/
inductive Place where
  /-- The directory itself. -/
  | here
  /-- A directory above it. -/
  | above
  | entry (name : String) (entry : Entry)

/-- The place one step further. -/
def step (entries : List (String × Entry)) (place : Place) (name : String) :
    Except ReadFailure Place :=
  match place, name with
  | .entry _ (.file _), _ => .error .notDirectory
  | place, "" => .ok place
  | place, "." => .ok place
  | .here, ".." => .ok .above
  | .above, ".." => .ok .above
  | .entry _ .directory, ".." => .ok .here
  | place, name =>
      if nameLimit < name.utf8ByteSize then .error .nameTooLong
      else
        match place, entries.lookup name with
        | .here, some entry => .ok (.entry name entry)
        | _, _ => .error .missing

/-- The place that a path leads to. -/
def placeAt (entries : List (String × Entry)) (path : String) : Except ReadFailure Place :=
  if pathLimit < path.utf8ByteSize then .error .nameTooLong
  else
    match path.splitOn "/" with
    | [""] => .error .missing
    | "" :: names => names.foldlM (step entries) .above
    | names => names.foldlM (step entries) .here

/-- The bytes of a file. -/
def Place.file? : Place → Option ByteArray
  | .entry _ (.file bytes) => some bytes
  | _ => none

/-- The files of a directory that holds the entries. -/
def inDirectory (entries : List (String × Entry)) : Files where
  read path := do
    match (← placeAt entries path).file? with
    | some bytes => .ok bytes
    | none => .error .directory
  isFile path :=
    match placeAt entries path with
    | .ok place => place.file?.isSome
    | .error _ => false

/-- Every file of such a directory can be read. -/
theorem isFile_inDirectory_iff {entries : List (String × Entry)} {path : String} :
    (inDirectory entries).isFile path = true ↔
      ∃ bytes, (inDirectory entries).read path = .ok bytes := by
  dsimp only [inDirectory, bind]
  cases placeAt entries path with
  | error failure => simp [Except.bind]
  | ok place => cases found : place.file? <;> simp [Except.bind, found]

end Files

end ScenarioGraph.CommandLine
