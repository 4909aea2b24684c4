import SecretMount.Concurrent
import SecretMount.FileTree
import SecretMount.Mount

/-!
# A host

A host keeps the mounted files and their versions between requests. After a successful mount it
takes over the versions of the answer and can write the files below the mount directory; after a
failed one nothing changes. A bare pass keeps what it recorded even when it fails.
-/

namespace SecretMount

/-- A host with its files, its versions and the world that its passes run in. -/
structure Host where
  directory : String
  settings : FetchSettings
  world : World
  files : FileTree := []
  versions : VersionMap := .empty

namespace Host

/-- The world as it is for the next step: the host's files on the disk, and nothing counted yet. -/
def prepare (h : Host) : World :=
  { h.world with disk := h.files.read, calls := [], events := [] }

/-- A pass over objects from the host's versions. -/
def reconcile (h : Host) (objects : List SecretObject) :
    Except Failure (List SecretValue) × Host :=
  let ((result, versions), world) := (Pass.reconcile h.settings objects h.versions).run h.prepare
  (result, { h with world, versions })

/-- Writes the files of an answer. -/
def materialize (h : Host) (response : MountResponse) : Host :=
  let mount : MountSettings := { directory := h.directory }
  { h with
    files := response.files.foldl (fun t f => t.write (mount.pathOf f.path) f.contents) h.files }

/-- A mount; the versions that are mounted are the host's unless the request names some. -/
def mount (h : Host) (request : MountRequest) (write : Bool) :
    Except Failure MountResponse × Host :=
  let (result, world) := (SecretMount.mount h.settings request).run h.prepare
  let h := { h with world }
  match result with
  | .error failure => (.error failure, h)
  | .ok response =>
    let h := { h with versions := VersionMap.ofList response.versions }
    (.ok response, if write then h.materialize response else h)

/-- Several passes over the same objects at once, none of which changes the host's versions. -/
def reconcileTogether (h : Host) (n : Nat) (objects : List SecretObject) :
    List (Nat × Except Failure (List SecretValue)) × Host :=
  let (results, world) :=
    Concurrent.reconcileTogether n h.settings objects h.versions h.prepare
  (results, { h with world })

/-- Lets time pass. -/
def advance (h : Host) (ms : Nat) : Host :=
  { h with world := { h.prepare with clock := h.world.clock + ms } }

end Host

end SecretMount
