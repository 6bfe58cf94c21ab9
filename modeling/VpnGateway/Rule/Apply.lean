import VpnGateway.Hostname
import VpnGateway.Setting.Error

/-!
# Applying rules

Each rule reads the text of a setting; the key appears in errors only. A comma list is read token by
token, and the first token that is not valid decides the error.

* `readOnOff`, `readRange`, `readChoice`, `readChoices`, `readDuration`, `readAddress`,
  `readNetwork`, `readNetworks`, `readHostnames`, `readCredential`: one reader for each rule;
* `Rule.apply`: the value of a text under a rule.
-/

namespace VpnGateway

variable (key : String)

/-- `on` is true and `off` is false. -/
def readOnOff (raw : String) : Except SettingError Bool :=
  if raw = "on" then .ok true
  else if raw = "off" then .ok false
  else .error (.malformed key raw .notOnOff)

/-- An integer with inclusive bounds. -/
def readRange (min max : Int64) (raw : String) : Except SettingError Int64 :=
  match Text.int64? raw with
  | some n => if min ≤ n ∧ n ≤ max then .ok n else .error (.outOfRange key raw min max)
  | none => .error (.outOfRange key raw min max)

/-- One of the choices. -/
def readChoice (choices : List String) (raw : String) : Except SettingError String :=
  if raw ∈ choices then .ok raw else .error (.notAChoice key raw choices)

/-- A comma list of choices. -/
def readChoices (choices : List String) (raw : String) : Except SettingError (List String) :=
  (Text.commaTokens raw).mapM (readChoice key choices)

/-- A duration. -/
def readDuration (raw : String) : Except Failure Duration :=
  match Duration.ofText raw with
  | .ok d => .ok d
  | .error .malformed => .error (.error (.malformed key raw .notDuration))
  | .error .outOfRange => .error (.error (.malformed key raw .durationOutOfRange))
  | .error .cutInsideDigit => .error .brokenOff

/-- An address. -/
def readAddress (raw : String) : Except SettingError Address :=
  match Address.ofText? raw with
  | some a => .ok a
  | none => .error (.malformed key raw .notAddress)

/-- An address or a network. -/
def readNetwork (raw : String) : Except SettingError Network :=
  match Network.ofText? raw with
  | some n => .ok n
  | none => .error (.malformed key raw .notNetwork)

/-- A comma list of addresses and networks, each as it is written. -/
def readNetworks (raw : String) : Except SettingError (List String) :=
  (Text.commaTokens raw).mapM fun token => (fun _ => token) <$> readNetwork key token

/-- A host name. -/
def readHostname (raw : String) : Except SettingError String :=
  if isHostname raw then .ok raw else .error (.malformed key raw .notHostname)

/-- A comma list of host names. -/
def readHostnames (raw : String) : Except SettingError (List String) :=
  (Text.commaTokens raw).mapM (readHostname key)

/-- A credential in a PEM text. -/
def readCredential (kind : CredentialKind) (raw : List UInt8) : Except SettingError Credential :=
  match Credential.extract raw kind with
  | .ok c => .ok c
  | .error fault => .error (.noCredential key fault)

/-- An error of a setting as a failure. -/
def verdict {α : Type} : Except SettingError α → Except Failure α
  | .ok a => .ok a
  | .error e => .error (.error e)

/-- The value of a text under a rule. -/
def Rule.apply (rule : Rule) (raw : String) : Except Failure Value :=
  match rule with
  | .range min max => Value.integer <$> verdict (readRange key min max raw)
  | .choice choices => Value.text <$> verdict (readChoice key choices raw)
  | .choiceList choices => Value.list <$> verdict (readChoices key choices raw)
  | .onOff => Value.bool <$> verdict (readOnOff key raw)
  | .duration => Value.duration <$> readDuration key raw
  | .address => Value.address <$> verdict (readAddress key raw)
  | .networks => Value.list <$> verdict (readNetworks key raw)
  | .hostnames => Value.list <$> verdict (readHostnames key raw)
  | .credential kind => Value.credential <$> verdict (readCredential key kind (Text.utf8Bytes raw))

end VpnGateway
