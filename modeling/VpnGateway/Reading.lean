import VpnGateway.File.Status
import VpnGateway.Log
import VpnGateway.Setting.Error
import VpnGateway.Setting.Key
import VpnGateway.Source

/-!
# Readings

A reading computes a value from a source and files. It keeps a journal of what it does: the keys it
looks up, the lines it logs and the warnings it gives. The journal outlives a failure.

* `Surroundings`: the source, the files, and where credentials are kept;
* `Journal`, `Deprecation`;
* `Reading`, with `Reading.fail`, `Reading.note`, `Reading.warn`, `Reading.lookup`;
* `Reading.liftExcept`: a value that needs no surroundings.
-/

namespace VpnGateway

/-- A warning that a setting was found under its former key. -/
structure Deprecation where
  deprecated : String
  replacement : String
  deriving DecidableEq, Repr

/-- The wording of a warning. -/
def Deprecation.message (d : Deprecation) : String :=
  "You are using the old environment variable " ++ d.deprecated ++
    ", please consider changing it to " ++ d.replacement

/-- What a reading can see. -/
structure Surroundings where
  source : Source
  files : Files
  secretsDirectory : String := Default.secretsDirectory
  clientKeyFile : String := Default.clientKeyFile
  clientCertificateFile : String := Default.clientCertificateFile

/-- What readings have done: keys looked up, lines logged and warnings given, the oldest first. -/
structure Journal where
  lookups : List String := []
  log : List Log.Line := []
  warnings : List Deprecation := []
  deriving DecidableEq, Repr

/-- A computation of a value from what a reading can see. -/
def Reading (α : Type) : Type :=
  Surroundings → Journal → Except Failure α × Journal

namespace Reading

instance : Monad Reading where
  pure a := fun _ j => (.ok a, j)
  bind x f := fun s j =>
    match x s j with
    | (.ok a, j) => f a s j
    | (.error e, j) => (.error e, j)

/-- Fail with an error. -/
def fail {α : Type} (e : SettingError) : Reading α := fun _ j => (.error (.error e), j)

/-- A value that needs no surroundings. -/
def liftExcept {α : Type} (x : Except Failure α) : Reading α := fun _ j => (x, j)

/-- What the reading can see. -/
def surroundings : Reading Surroundings := fun s j => (.ok s, j)

/-- Log a line. -/
def note (level : Log.Level) (component : Log.Component) (text : String) : Reading Unit :=
  fun _ j => (.ok (), { j with log := j.log ++ [⟨level, component, text⟩] })

/-- Give a warning. -/
def warn (d : Deprecation) : Reading Unit :=
  fun _ j => (.ok (), { j with warnings := j.warnings ++ [d] })

/-- The warnings so far, which are then forgotten. -/
def takeWarnings : Reading (List Deprecation) :=
  fun _ j => (.ok j.warnings, { j with warnings := [] })

/-- Ask the source for a key. -/
def ask (key : String) : Reading Answer := fun s j =>
  (.ok (s.source j.lookups key), { j with lookups := j.lookups ++ [key] })

/-- The text of a key, if it is set. -/
def lookup (key : String) : Reading (Option String) := do
  match ← ask key with
  | .unset => return none
  | .text value => return some value
  | .notUtf8 lossy => fail (.malformed key lossy .notUtf8)

end Reading

end VpnGateway
