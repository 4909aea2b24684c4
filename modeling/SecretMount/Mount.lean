import SecretMount.Pass
import SecretMount.Spec

/-!
# Mount requests

A host asks for the files of a batch and says which versions are mounted already. The answer is a
file for each value of the pass over the batch, and the versions to hand back with the next
request. Writing the files is the host's work.
-/

namespace SecretMount

/-- The permissions of a file unless the request says otherwise. -/
def defaultMode : Nat := 0o644

/-- A request for the files of a batch. -/
structure MountRequest where
  /-- The batch, as text. -/
  objects : String := ""
  /-- The setting of the path translation. -/
  pathTranslation : String := ""
  /-- The directory under which the files are mounted. -/
  target : String := ""
  mode : Nat := defaultMode
  /-- The ids and versions that are mounted. -/
  current : List (String × String) := []
deriving Repr, DecidableEq

/-- The request that the attributes of a volume make; a missing attribute is empty. -/
def MountRequest.ofAttributes (lookup : String → Option String) (target : String) :
    MountRequest :=
  { objects := (lookup "objects").getD ""
    pathTranslation := (lookup "pathTranslation").getD ""
    target := target }

/-- A file for the host to write. -/
structure SecretFile where
  /-- The path below the mount directory. -/
  path : String
  contents : ByteArray
  mode : Nat
  version : String

/-- The answer to a request. -/
structure MountResponse where
  files : List SecretFile
  versions : List (String × String)

namespace MountResponse

/-- The file of a value, with the version that is recorded under its name. -/
def fileOf (mode : Nat) (m : VersionMap) (value : SecretValue) : SecretFile :=
  let path := value.object.fileName
  ⟨path, value.bytes, mode, (m.get? path).getD ""⟩

/-- The answer for the values of a pass and the map after it. -/
def ofValues (mode : Nat) (values : List SecretValue) (m : VersionMap) : MountResponse :=
  ⟨values.map (fileOf mode m), m.toList⟩

end MountResponse

/-- Reads the batch, makes a pass over it from the mounted versions, and gives its files. -/
def mount (settings : FetchSettings) (request : MountRequest) :
    Process (Except Failure MountResponse) := do
  match Batch.ofText request.target request.pathTranslation request.objects with
  | .error failure => pure (.error failure)
  | .ok objects => do
    let (result, m) ← Pass.reconcile settings objects (VersionMap.ofList request.current)
    pure (result.map fun values => MountResponse.ofValues request.mode values m)

end SecretMount
