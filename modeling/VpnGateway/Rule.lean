import VpnGateway.Credential
import VpnGateway.Duration
import VpnGateway.Network
import VpnGateway.Text.CommaList
import VpnGateway.Text.Quoted

/-!
# Rules and values

What the value of a setting may be, and what it is once it has been read.

* `Rule`: the forms of values;
* `Rule.outline`: a rule as messages show it;
* `Value` and its projections.
-/

namespace VpnGateway

/-- What the value of a setting may be. -/
inductive Rule
  /-- An integer with inclusive bounds. -/
  | range (min max : Int64)
  /-- One of the choices. -/
  | choice (choices : List String)
  /-- A comma list of choices. -/
  | choiceList (choices : List String)
  /-- `on` or `off`. -/
  | onOff
  /-- A duration. -/
  | duration
  /-- An address. -/
  | address
  /-- A comma list of addresses and networks. -/
  | networks
  /-- A comma list of host names. -/
  | hostnames
  /-- A PEM text that holds a credential. -/
  | credential (kind : CredentialKind)
  deriving DecidableEq, Repr

namespace Rule

/-- Texts in a list, each between quotes. -/
def quotedList (choices : List String) : String :=
  "[" ++ ", ".intercalate (choices.map Text.quoted) ++ "]"

/-- A rule as messages show it. -/
def outline : Rule → String
  | range min max =>
    "Range \x7b min: " ++ toString min.toInt ++ ", max: " ++ toString max.toInt ++ " \x7d"
  | choice cs => "Choice(" ++ quotedList cs ++ ")"
  | choiceList cs => "CsvChoice(" ++ quotedList cs ++ ")"
  | onOff => "OnOff"
  | duration => "Duration"
  | address => "IpAddress"
  | networks => "IpOrCidr"
  | hostnames => "HostnamePattern"
  | credential kind => "PemBlock(" ++ Credential.kindName kind ++ ")"

end Rule

/-- The value of a setting. -/
inductive Value
  | bool (b : Bool)
  | integer (n : Int64)
  | duration (d : Duration)
  | address (a : Address)
  | text (s : String)
  | list (l : List String)
  | credential (c : Credential)
  deriving DecidableEq, Repr

namespace Value

/-- The truth value, if it is one. -/
def bool? : Value → Option Bool
  | bool b => some b
  | _ => none

/-- The integer, if it is one. -/
def integer? : Value → Option Int64
  | integer n => some n
  | _ => none

/-- The duration, if it is one. -/
def duration? : Value → Option Duration
  | duration d => some d
  | _ => none

/-- The address, if it is one. -/
def address? : Value → Option Address
  | address a => some a
  | _ => none

/-- The text, if it is one. -/
def text? : Value → Option String
  | text s => some s
  | _ => none

/-- The list, if it is one. -/
def list? : Value → Option (List String)
  | list l => some l
  | _ => none

/-- The credential, if it is one. -/
def credential? : Value → Option Credential
  | credential c => some c
  | _ => none

end Value

end VpnGateway
