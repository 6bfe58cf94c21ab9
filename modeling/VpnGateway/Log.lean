/-!
# Log lines

* `Log.Level`, `Log.Threshold`: how urgent a line is, and which lines are wanted;
* `Log.Component`: the part of the program that a line comes from, and its path;
* `Log.Line`, `Log.Line.brief`.
-/

namespace VpnGateway.Log

/-- How urgent a line is. -/
inductive Level
  | error | warn | info | debug | trace
  deriving DecidableEq, Repr

/-- The more verbose a level, the higher its rank. -/
def Level.rank : Level → Nat
  | error => 1
  | warn => 2
  | info => 3
  | debug => 4
  | trace => 5

/-- The name of a level. -/
def Level.name : Level → String
  | error => "ERROR"
  | warn => "WARN"
  | info => "INFO"
  | debug => "DEBUG"
  | trace => "TRACE"

/-- The most verbose level that is wanted, if any. -/
abbrev Threshold : Type := Option Level

/-- Lines of a level are wanted. -/
def Threshold.admits (t : Threshold) (level : Level) : Bool :=
  match t with
  | none => false
  | some most => level.rank ≤ most.rank

/-- The part of the program that a line comes from. -/
inductive Component
  | program | source | reader | renames | files | certificate | settings | dns | cyberghost
  deriving DecidableEq, Repr

/-- The path of a component, as log filters name it. -/
def Component.path : Component → String
  | program => "gateway_params"
  | source => "gateway_params::params::source"
  | reader => "gateway_params::params::reader"
  | renames => "gateway_params::params::compat"
  | files => "gateway_params::common::fs"
  | certificate => "gateway_params::crypto::certificate"
  | settings => "gateway_params::settings"
  | dns => "gateway_params::settings::dns"
  | cyberghost => "gateway_params::settings::cyberghost"

/-- A line of the log. -/
structure Line where
  level : Level
  component : Component
  text : String
  deriving DecidableEq, Repr

/-- A line with its level alone. -/
def Line.brief (l : Line) : String :=
  l.level.name ++ " " ++ l.text

end VpnGateway.Log
