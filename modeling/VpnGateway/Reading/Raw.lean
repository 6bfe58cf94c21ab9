import VpnGateway.Error
import VpnGateway.Reading
import VpnGateway.Text.Lowercase

/-!
# Raw values

The text of a setting and the bytes of a credential, before any rule is applied. What is set to the
empty text counts as not set.

* `Policy`: what stands for a setting that is not set;
* `Origin`: where a value comes from;
* `Reading.rawWithOrigin`, `Reading.raw`: the text of a setting;
* `Reading.secretFilePath`, `Reading.nonEmptyFile`, `Reading.credentialBytes`: the bytes of a
  credential, from its secret file, its key, or a file of last resort.
-/

namespace VpnGateway

/-- What stands for a setting that is not set. -/
inductive Policy
  /-- The empty text. -/
  | optional
  /-- A given text. -/
  | withDefault (value : String)
  /-- Nothing: the setting must be set. -/
  | compulsory
  deriving DecidableEq, Repr

namespace Policy

/-- The text that stands for the setting, if one was given. -/
def default? : Policy → Option String
  | withDefault value => some value
  | _ => none

/-- The setting must be set. -/
def isCompulsory : Policy → Bool
  | compulsory => true
  | _ => false

end Policy

/-- Where a value comes from. -/
inductive Origin
  | default | environment | secretFile | file | unset
  deriving DecidableEq, Repr

/-- The name of an origin. -/
def Origin.text : Origin → String
  | default => "default"
  | environment => "environment"
  | secretFile => "secret file"
  | file => "file"
  | unset => "unset"

namespace Reading

/-- What a policy makes of the text of a key. -/
def resolve (key : String) (policy : Policy) (found : Option String) :
    Except SettingError (String × Origin) :=
  match found.filter (· ≠ ""), policy with
  | some value, _ => .ok (value, .environment)
  | none, .withDefault value => .ok (value, .default)
  | none, .compulsory => .error (.missing key)
  | none, .optional => .ok ("", .unset)

/-- The text of a setting, and where it comes from. -/
def rawWithOrigin (key : String) (policy : Policy) : Reading (String × Origin) := do
  match resolve key policy (← lookup key) with
  | .error e => fail e
  | .ok (value, origin) =>
    note .debug .source (key ++ " resolved from " ++ origin.text)
    return (value, origin)

/-- The text of a setting. -/
def raw (key : String) (policy : Policy) : Reading String := do
  return (← rawWithOrigin key policy).1

/-- The path of the secret file of a credential: what its key says, or the key in lower case in the
directory of secrets. -/
def secretFilePath (key : String) : Reading String := do
  match (← lookup (Key.secretFile key)).filter (· ≠ "") with
  | some path => return path
  | none => return joinPath (← surroundings).secretsDirectory (Text.lowercase key)

/-- The bytes of a file, if it has any. -/
def nonEmptyFile (path : String) : Reading (Option (List UInt8)) := do
  match (← surroundings).files path with
  | .absent =>
    note .debug .files ("File " ++ path ++ " does not exist")
    return none
  | .unreadable error =>
    note .debug .files ("Cannot read file " ++ path ++ ": " ++ (GatewayError.file error).message)
    return none
  | .content [] =>
    note .debug .files ("File " ++ path ++ " is empty")
    return none
  | .content bytes => return some bytes

/-- The bytes of a credential: of its secret file, else under its key, else of the file `fallback`. -/
def credentialBytes (key : String) (fallback : Option String) :
    Reading (List UInt8 × Origin) := do
  let path ← secretFilePath key
  match ← nonEmptyFile path with
  | some bytes =>
    note .debug .source (key ++ " resolved from secret file " ++ path)
    return (bytes, .secretFile)
  | none =>
    let (value, origin) ← rawWithOrigin key .optional
    if value ≠ "" then return (Text.utf8Bytes value, origin)
    else match fallback with
      | none => fail (.missing key)
      | some path =>
        match ← nonEmptyFile path with
        | some bytes =>
          note .debug .source (key ++ " resolved from file " ++ path)
          return (bytes, .file)
        | none => fail (.missing key)

end Reading

end VpnGateway
