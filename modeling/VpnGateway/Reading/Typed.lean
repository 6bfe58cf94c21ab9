import VpnGateway.Reading.Raw
import VpnGateway.Rule.Apply

/-!
# Typed values

The text of a setting, read under a rule.

* `Reading.validated`: the value under a rule;
* `Reading.typed`: the value, of one type;
* `Reading.onOff`, `Reading.integer`, `Reading.choice`, `Reading.duration`, `Reading.address`;
* `Reading.list`, `Reading.choiceList`: a comma list, where the empty text is the empty list;
* `Reading.byte`: an integer of eight bits.
-/

namespace VpnGateway.Reading

/-- The value of a setting under a rule. -/
def validated (key : String) (rule : Rule) (policy : Policy) : Reading Value := do
  let value ← raw key policy
  liftExcept (rule.apply key value)

/-- The error that a rule gives no value of the type that was asked for. -/
def otherType (key : String) (rule : Rule) : SettingError :=
  .malformed key "" (.otherType rule)

/-- The value of a setting under a rule, of one type. -/
def typed {α : Type} (key : String) (rule : Rule) (policy : Policy) (project : Value → Option α) :
    Reading α := do
  match project (← validated key rule policy) with
  | some a => return a
  | none => fail (otherType key rule)

/-- A truth value. -/
def onOff (key : String) (policy : Policy) : Reading Bool :=
  typed key .onOff policy Value.bool?

/-- An integer with inclusive bounds. -/
def integer (key : String) (min max : Int64) (policy : Policy) : Reading Int64 :=
  typed key (.range min max) policy Value.integer?

/-- One of the choices. -/
def choice (key : String) (choices : List String) (policy : Policy) : Reading String :=
  typed key (.choice choices) policy Value.text?

/-- A duration. -/
def duration (key : String) (policy : Policy) : Reading Duration :=
  typed key .duration policy Value.duration?

/-- An address. -/
def address (key : String) (policy : Policy) : Reading Address :=
  typed key .address policy Value.address?

/-- A list under a rule, where the empty text is the empty list. -/
def list (key : String) (rule : Rule) (policy : Policy) : Reading (List String) := do
  let value ← raw key policy
  if value = "" then return []
  else
    match (← liftExcept (rule.apply key value)).list? with
    | some l => return l
    | none => fail (otherType key rule)

/-- A list of choices. -/
def choiceList (key : String) (choices : List String) (policy : Policy) : Reading (List String) :=
  list key (.choiceList choices) policy

/-- A byte as an integer of 64 bits. -/
def wide (b : UInt8) : Int64 := Int64.ofNat b.toNat

/-- An integer with inclusive bounds of eight bits. -/
def byte (key : String) (min max : UInt8) (policy : Policy) : Reading UInt8 := do
  let n ← integer key (wide min) (wide max) policy
  if 0 ≤ n.toInt ∧ n.toInt < 256 then return UInt8.ofNat n.toInt.toNat
  else fail (.outOfRange key (toString n.toInt) (wide min) (wide max))

end VpnGateway.Reading
