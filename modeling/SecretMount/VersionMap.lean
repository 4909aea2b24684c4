import SecretMount.KeyedList

/-!
# Version maps

A version map says for each file name which version was mounted under it last. Its entries stand in
ascending order of the name. It is exchanged with the host as a list of ids and versions, of which
a later entry replaces an earlier one for the same id.
-/

namespace SecretMount

/-- Versions by file name. -/
structure VersionMap where
  entries : List (String × String)
  ascending : KeyedList.Ascending entries
deriving DecidableEq

namespace VersionMap

/-- The map without entries. -/
def empty : VersionMap := ⟨[], List.Pairwise.nil⟩

instance : Inhabited VersionMap := ⟨empty⟩

/-- The version under a file name. -/
def get? (m : VersionMap) (fileName : String) : Option String :=
  KeyedList.get? fileName m.entries

/-- Records a version under a file name. -/
def insert (m : VersionMap) (fileName version : String) : VersionMap :=
  ⟨KeyedList.insert fileName version m.entries, KeyedList.ascending_insert _ _ m.ascending⟩

/-- Records a version under several file names. -/
def insertEach (m : VersionMap) (fileNames : List String) (version : String) : VersionMap :=
  fileNames.foldl (fun m fileName => m.insert fileName version) m

/-- The map of a list of ids and versions. -/
def ofList (list : List (String × String)) : VersionMap :=
  ⟨KeyedList.ofList list, KeyedList.ascending_ofList list⟩

/-- The list of ids and versions, in ascending order of the id. -/
def toList (m : VersionMap) : List (String × String) := m.entries

/-- The number of entries. -/
def size (m : VersionMap) : Nat := m.entries.length

/-- Whether there is no entry. -/
def isEmpty (m : VersionMap) : Bool := m.entries.isEmpty

end VersionMap

end SecretMount
