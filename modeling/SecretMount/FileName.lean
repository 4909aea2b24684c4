import SecretMount.Failure
import SecretMount.Text.Ascii
import SecretMount.Text.Blank
import SecretMount.Text.Pattern

/-!
# Admissible file names

A file name must stay below the mount directory: it is relative, none of its segments is `..`, and
it holds no control character. `FileName.check` reports the first of these that is violated.
-/

namespace SecretMount.FileName

/-- The parts between slashes. -/
def segments (fileName : String) : List (List Char) :=
  Text.split '/' fileName.toList

/-- The segment that leads to the directory above. -/
def parent : List Char := ['.', '.']

/-- Two dots up to a slash or the end of the name. -/
def ascent : Text.Pattern :=
  .seq (.char '.') (.seq (.char '.') (.either (.char '/') .stop))

/-- The same after a slash or at the start of the name. -/
def climbing : Text.Pattern :=
  .seq (.either .start (.char '/')) ascent

/-- Refuses a name that starts with a slash, climbs, or holds a control character. -/
def check (fileName object : String) : Except Failure Unit :=
  if fileName.toList.head? = some '/' then
    .error (.validation object (.absoluteFileName fileName))
  else if climbing.occursIn fileName.toList then
    .error (.validation object (.climbingFileName fileName))
  else if fileName.toList.any Text.isControl then
    .error (.validation object (.controlCharacter fileName))
  else .ok ()

end SecretMount.FileName
