import VpnGateway.Reading.Typed

/-!
# Renamed settings

A setting that was renamed is still found under its former key. The former key counts if it is set,
and then the new key must not be set to another text.

* `Alias`, `Alias.State`;
* `Alias.detect`: which of the two keys counts;
* `Alias.resolve`: the value, with a warning if the former key counts;
* `Reading.renamed`: the value, with the warning in the journal.
-/

namespace VpnGateway

/-- A renamed setting: its former key, its key, and what stands for it. -/
structure Alias where
  deprecated : String
  replacement : String
  policy : Policy
  deriving DecidableEq, Repr

/-- Which key counts. -/
inductive Alias.State
  | deprecatedPresent
  | canonicalOnly
  deriving DecidableEq, Repr

/-- The name of a state. -/
def Alias.State.name : Alias.State → String
  | deprecatedPresent => "DeprecatedPresent"
  | canonicalOnly => "CanonicalOnly"

/-- The value of a renamed setting. -/
structure Resolved (α : Type) where
  value : α
  state : Alias.State
  warning : Option Deprecation

namespace Alias

/-- Which key counts. -/
def detect (a : Alias) : Reading State := do
  let former ← Reading.raw a.deprecated .optional
  if former = "" then return .canonicalOnly
  else
    let current ← Reading.raw a.replacement .optional
    if current ≠ "" ∧ current ≠ former then
      Reading.fail (.conflict a.deprecated a.replacement)
    else return .deprecatedPresent

/-- The value of a renamed setting, where `read` reads the setting under either key. -/
def resolve {α : Type} (a : Alias) (read : String → Policy → Reading α) : Reading (Resolved α) := do
  let state ← a.detect
  Reading.note .debug .renames (a.replacement ++ " alias state: " ++ state.name)
  match state with
  | .deprecatedPresent =>
    let value ← read a.deprecated .compulsory
    return ⟨value, state, some ⟨a.deprecated, a.replacement⟩⟩
  | .canonicalOnly =>
    let value ← read a.replacement a.policy
    return ⟨value, state, none⟩

end Alias

/-- The value of a renamed setting, with a warning if the former key counts. -/
def Reading.renamed {α : Type} (a : Alias) (read : String → Policy → Reading α) : Reading α := do
  let resolved ← a.resolve read
  match resolved.warning with
  | some d => Reading.warn d
  | none => pure ()
  return resolved.value

end VpnGateway
