import SecretMount.Settings
import SecretMount.Text.Ascii
import SecretMount.Text.Blank

/-!
# Which log events pass

A filter is a list of directives, each a level for the targets that start with a text, or for all.
Of the directives that fit an event the one with the longest target decides, the later one of two
alike. A filter comes from the environment, where a malformed directive makes it unusable, or from
the log level of the settings, where a malformed one is dropped; without directives the latter lets
errors pass. A log is installed once.
-/

namespace SecretMount.Logging

/-- How grave an event is, the gravest first. -/
inductive Level where
  | error
  | warn
  | info
  | debug
  | trace
deriving Repr, DecidableEq

/-- The place of a level in the order, one for the gravest. -/
def Level.rank : Level → Nat
  | .error => 1
  | .warn => 2
  | .info => 3
  | .debug => 4
  | .trace => 5

/-- The name of a level. -/
def Level.name : Level → String
  | .error => "ERROR"
  | .warn => "WARN"
  | .info => "INFO"
  | .debug => "DEBUG"
  | .trace => "TRACE"

/-- A directive: the rank up to which events pass, and the start of their targets. A directive for
spans fits no event outside of them. -/
structure Directive where
  rank : Nat
  target : Option String := none
  forSpan : Bool := false
deriving Repr, DecidableEq

/-- The rank that a word or a digit stands for; zero lets nothing pass. -/
def rankOfText? (s : String) : Option Nat :=
  match Text.lower s with
  | "off" | "0" => some 0
  | "error" | "1" => some 1
  | "warn" | "2" => some 2
  | "info" | "3" => some 3
  | "debug" | "4" => some 4
  | "trace" | "5" => some 5
  | _ => none

/-- The rank of trace, which a target has without a level. -/
def everything : Nat := Level.trace.rank

/-- A character of a target. -/
def isTargetChar (c : Char) : Bool :=
  c.isAlphanum || c = '_' || c = ':' || c = '-' || 0x80 ≤ c.toNat

/-- The targets and spans of a directive, two at most, and what follows them. -/
def readItems : Nat → List Char → List (Option (List Char)) × List Char
  | 0, cs => ([], cs)
  | n + 1, cs =>
    match cs with
    | '[' :: rest =>
      match rest.dropWhile (· ≠ ']') with
      | ']' :: after =>
        let (items, cs) := readItems n after
        (none :: items, cs)
      | _ => ([], cs)
    | _ =>
      let word := cs.takeWhile isTargetChar
      if word = [] then ([], cs)
      else
        let (items, cs) := readItems n (cs.dropWhile isTargetChar)
        (some word :: items, cs)

/-- The rank after the targets: that of a level after an equals sign, or else everything. -/
def readRank : List Char → Option Nat
  | [] => some everything
  | ['='] => some everything
  | '=' :: level => rankOfText? (String.ofList level)
  | _ => none

/-- A directive: a level, a target, or both with an equals sign between. -/
def Directive.read (s : String) : Option Directive :=
  match rankOfText? s with
  | some rank => some { rank }
  | none => do
    let (items, rest) := readItems 2 s.toList
    if items = [] then none
    let rank ← readRank rest
    let target := ((items.filterMap id).getLast?.map String.ofList).filter fun t =>
      (rankOfText? t).isNone
    pure { rank, target, forSpan := items.contains none }

/-- What decides which events pass. -/
abbrev Filter := List Directive

/-- The texts between commas that are not empty. -/
def pieces (s : String) : List String :=
  ((Text.split ',' s.toList).filter (· ≠ [])).map String.ofList

/-- The filter of the environment; every directive has to be well formed. -/
def Filter.read (s : String) : Option Filter :=
  (pieces s).mapM Directive.read

/-- The target of the events of this library. -/
def ownTarget : String := "secrets_mount_provider"

/-- What passes if nothing is said: errors from everywhere. -/
def errorsOnly : Filter := [{ rank := Level.error.rank }]

/-- The filter of a log level. -/
def Filter.ofLevel (logLevel : String) : Filter :=
  let text := ownTarget ++ "=" ++ Text.lower (Text.trim logLevel)
  match (pieces text).filterMap Directive.read with
  | [] => errorsOnly
  | directives => directives

/-- Whether a directive fits an event of a target. -/
def Directive.fits (d : Directive) (target : String) : Bool :=
  !d.forSpan && d.target.all fun start => start.toList.isPrefixOf target.toList

/-- How specific a directive is: one with a longer target goes before. -/
def Directive.weight (d : Directive) : Nat :=
  match d.target with
  | none => 0
  | some t => t.utf8ByteSize + 1

/-- The directive that decides about a target: of the most specific ones the last. -/
def Filter.deciding (f : Filter) (target : String) : Option Directive :=
  (f.filter fun d => d.fits target).foldl (fun best d =>
    match best with
    | none => some d
    | some b => if b.weight ≤ d.weight then some d else some b) none

/-- Whether an event passes. -/
def Filter.passes (f : Filter) (level : Level) (target : String) : Bool :=
  match f.deciding target with
  | none => false
  | some d => decide (level.rank ≤ d.rank)

/-- How events are written. -/
inductive Format where
  | json
  | text
deriving Repr, DecidableEq

/-- The name of a format. -/
def Format.name : Format → String
  | .json => "json"
  | .text => "text"

/-- The format of a setting: JSON if it says so in any letter case. -/
def Format.ofSetting (s : String) : Format :=
  if Text.equalIgnoringCase s "json" then .json else .text

/-- A log: its filter and its format. -/
structure Log where
  filter : Filter
  format : Format
deriving Repr, DecidableEq

/-- The log for settings and the environment's filter. -/
def Log.ofSettings (settings : Settings) (environment : Option String) : Log :=
  { filter := (environment.bind Filter.read).getD (Filter.ofLevel settings.logLevel)
    format := .ofSetting settings.logFormat }

/-- Installs a log unless there is one; also says whether it did. -/
def install (installed : Option Log) (log : Log) : Bool × Option Log :=
  match installed with
  | none => (true, some log)
  | some before => (false, some before)

end SecretMount.Logging
