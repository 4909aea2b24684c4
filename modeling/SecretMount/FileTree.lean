import SecretMount.Failure
import SecretMount.Text.Ascii

/-!
# Trees of files

The files below a directory, as a list of their places with their contents, directories without.
A path is resolved part by part: empty parts and `.` stay, `..` goes up, and anything else must be
an entry of a directory. There is nothing above the directory, nor at an absolute path. Names and
paths have the lengths that file systems allow.
-/

namespace SecretMount

/-- The places below a directory, each a file with its contents or a directory. -/
abbrev FileTree := List (List String × Option ByteArray)

namespace FileTree

/-- The greatest number of bytes in the name of an entry. -/
def longestName : Nat := 255

/-- The number of bytes that a path must stay below. -/
def pathLimit : Nat := 4096

/-- Where resolving a path has got to: a place of the tree, or somewhere outside it. -/
inductive Place where
  | inside (parts : List String)
  | outside
deriving Repr, DecidableEq

/-- What stands at a place of the tree: nothing, a directory, or a file with its contents. -/
def entry? (t : FileTree) (parts : List String) : Option (Option ByteArray) :=
  if parts = [] then some none else (t.find? fun e => e.1 = parts).map Prod.snd

/-- Whether a place is a directory; all that is outside counts as an empty one. -/
def isDirectory (t : FileTree) : Place → Bool
  | .inside parts =>
    match t.entry? parts with
    | some none => true
    | _ => false
  | .outside => true

/-- The place above. -/
def Place.up : Place → Place
  | .inside [] => .outside
  | .inside parts => .inside parts.dropLast
  | .outside => .outside

/-- The place that one part of a path leads to. -/
def follow (t : FileTree) (place : Place) (part : String) : Except ReadFault Place :=
  if !t.isDirectory place then .error .notDirectory
  else if part = "" ∨ part = "." then .ok place
  else if part = ".." then .ok place.up
  else if longestName < part.utf8ByteSize then .error .nameTooLong
  else
    match place with
    | .outside => .error .missing
    | .inside parts =>
      if (t.entry? (parts ++ [part])).isSome then .ok (.inside (parts ++ [part]))
      else .error .missing

/-- The parts of a path between slashes. -/
def parts (path : String) : List String :=
  (Text.split '/' path.toList).map String.ofList

/-- The place that a path leads to. -/
def resolve (t : FileTree) (path : String) : Except ReadFault Place :=
  if path.toList.contains '\x00' then .error .containsNul
  else if path = "" then .error .missing
  else if pathLimit ≤ path.utf8ByteSize then .error .nameTooLong
  else
    let start : Place := if path.toList.head? = some '/' then .outside else .inside []
    (parts path).foldlM t.follow start

/-- The contents of the file at a path. -/
def read (t : FileTree) (path : String) : Except ReadFault ByteArray := do
  match ← t.resolve path with
  | .outside => throw .isDirectory
  | .inside parts =>
    match t.entry? parts with
    | some (some contents) => pure contents
    | some none => throw .isDirectory
    | none => throw .missing

/-- The place of a path for writing: its parts without those that stay, and with each that goes up
dropping the one before it. -/
def placeOf (path : String) : List String :=
  (parts path).foldl (fun acc part =>
    if part = "" ∨ part = "." then acc else if part = ".." then acc.dropLast else acc ++ [part]) []

/-- The tree with a place's directories up to the given depth. -/
def makeDirectories (t : FileTree) (place : List String) : FileTree :=
  (List.range place.length).foldl (fun t n =>
    let above := place.take n
    if (t.entry? above).isSome then t else t ++ [(above, none)]) t

/-- Makes a directory, and those above it. -/
def makeDirectory (t : FileTree) (path : String) : FileTree :=
  let place := placeOf path
  let t := t.makeDirectories place
  if (t.entry? place).isSome then t else t ++ [(place, none)]

/-- Writes a file, and the directories above it. -/
def write (t : FileTree) (path : String) (contents : ByteArray) : FileTree :=
  let place := placeOf path
  let t := t.makeDirectories place
  t.filter (fun e => e.1 ≠ place) ++ [(place, some contents)]

/-- Removes what stands at a path, with all below it. -/
def remove (t : FileTree) (path : String) : FileTree :=
  let place := placeOf path
  t.filter fun e => !place.isPrefixOf e.1

end FileTree

end SecretMount
