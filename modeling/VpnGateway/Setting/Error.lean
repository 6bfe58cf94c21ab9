import VpnGateway.Rule

/-!
# Errors of settings

Why a setting has no value. Every error names the key of the setting, and the value that was
rejected if there is one.

* `FormatFault`: what is wrong with the form of a value;
* `SettingError`, `SettingError.key`, `SettingError.message`;
* `Failure`: an error, or a reading that came to no verdict.
-/

namespace VpnGateway

/-- What is wrong with the form of a value. -/
inductive FormatFault
  | notOnOff
  | notDuration
  | durationOutOfRange
  | notAddress
  | notNetwork
  | notHostname
  | notUtf8
  /-- The rule gives no value of the type that was asked for. -/
  | otherType (rule : Rule)
  /-- A reason that was given in words. -/
  | stated (reason : String)
  deriving DecidableEq, Repr

/-- The wording of a fault. -/
def FormatFault.message : FormatFault → String
  | notOnOff => "expected \"on\" or \"off\""
  | notDuration => "not a duration, expected e.g. 24h, 1h30m or 500ms"
  | durationOutOfRange => "duration out of range"
  | notAddress => "not an IP address"
  | notNetwork => "not a valid IP or CIDR range"
  | notHostname => "hostname does not seem valid"
  | notUtf8 => "not valid UTF-8"
  | otherType rule => rule.outline ++ " does not produce the requested type"
  | stated reason => reason

/-- Why a setting has no value. -/
inductive SettingError
  /-- A compulsory setting is not set. -/
  | missing (key : String)
  /-- A text is not one of the choices. -/
  | notAChoice (key value : String) (choices : List String)
  /-- A text is no integer within the bounds. -/
  | outOfRange (key value : String) (min max : Int64)
  /-- A text has the wrong form. -/
  | malformed (key value : String) (fault : FormatFault)
  /-- A text holds no credential. -/
  | noCredential (key : String) (fault : Credential.Fault)
  /-- A renamed setting has different values under its two keys. -/
  | conflict (deprecated replacement : String)
  deriving DecidableEq, Repr

namespace SettingError

/-- The key of the setting that has no value. -/
def key : SettingError → String
  | missing key => key
  | notAChoice key _ _ => key
  | outOfRange key _ _ _ => key
  | malformed key _ _ => key
  | noCredential key _ => key
  | conflict _ replacement => replacement

/-- The wording of an error. -/
def message : SettingError → String
  | missing key => "environment variable " ++ key ++ " is required but not set"
  | notAChoice key value choices =>
    "value " ++ Text.quoted value ++ " for " ++ key ++ " is not valid, possible values are: " ++
      ", ".intercalate choices
  | outOfRange key value min max =>
    "value " ++ Text.quoted value ++ " for " ++ key ++ " must be an integer between " ++
      toString min.toInt ++ " and " ++ toString max.toInt
  | malformed key value fault =>
    "value " ++ Text.quoted value ++ " for " ++ key ++ " is not valid: " ++ fault.message
  | noCredential key fault => "cannot decode PEM block from " ++ key ++ ": " ++ fault.message
  | conflict deprecated replacement =>
    deprecated ++ " and " ++ replacement ++
      " are both set with different values, please only set " ++ replacement

end SettingError

/-- How the reading of a setting fails. -/
inductive Failure
  /-- The setting has no value. -/
  | error (e : SettingError)
  /-- The reading broke off without a verdict, at a fraction that cannot be cut inside a digit. -/
  | brokenOff
  deriving DecidableEq, Repr

end VpnGateway
