import SecretMount.Failure
import SecretMount.Text.Ascii

/-!
# From names to file names

A name becomes a file name by putting one character in place of every slash, or, when that is
switched off, by dropping one slash at the start.
-/

namespace SecretMount

/-- What happens to the slashes of a name. -/
inductive PathTranslation where
  /-- Every slash becomes this character. -/
  | replace (c : Char)
  /-- Slashes stay, but for one at the start. -/
  | keep
deriving Repr, DecidableEq

namespace PathTranslation

/-- Slashes become underscores unless a setting says otherwise. -/
def default : PathTranslation := .replace '_'

instance : Inhabited PathTranslation := ⟨default⟩

/-- The translation of a setting: nothing for the default, `false` in any letter case to keep
slashes, or the one character to use. -/
def ofSetting (setting : String) : Except Failure PathTranslation :=
  if setting = "" then .ok default
  else if Text.equalIgnoringCase setting "false" then .ok .keep
  else
    match setting.toList with
    | [c] => .ok (.replace c)
    | _ => .error (.configuration .badTranslation)

/-- The file name of a name. -/
def apply (t : PathTranslation) (name : String) : String :=
  match t with
  | .replace c => String.ofList (name.toList.map fun d => if d = '/' then c else d)
  | .keep =>
    match name.toList with
    | '/' :: rest => String.ofList rest
    | _ => name

end PathTranslation

end SecretMount
