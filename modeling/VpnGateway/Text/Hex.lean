/-!
# Hexadecimal digits

* `hexDigit?`: the value of a digit, in either case;
* `hexByte`, `hexText`: two lower-case digits a byte;
* `hexBytes?`: reads them back;
* `hexBytes?_hexText`: and it does.
-/

namespace VpnGateway.Text

/-- The value of a hexadecimal digit. -/
def hexDigit? (c : Char) : Option Nat :=
  if '0' ≤ c ∧ c ≤ '9' then some (c.toNat - '0'.toNat)
  else if 'a' ≤ c ∧ c ≤ 'f' then some (c.toNat - 'a'.toNat + 10)
  else if 'A' ≤ c ∧ c ≤ 'F' then some (c.toNat - 'A'.toNat + 10)
  else none

/-- The two digits of a byte. -/
def hexByte (b : UInt8) : List Char :=
  [Nat.digitChar (b.toNat / 16), Nat.digitChar (b.toNat % 16)]

/-- The digits of a row of bytes. -/
def hexText (bytes : List UInt8) : String :=
  String.ofList (bytes.flatMap hexByte)

/-- The bytes that an even row of digits denotes. -/
def hexBytes? : List Char → Option (List UInt8)
  | [] => some []
  | [_] => none
  | a :: b :: cs => do
    let high ← hexDigit? a
    let low ← hexDigit? b
    let rest ← hexBytes? cs
    return UInt8.ofNat (high * 16 + low) :: rest

theorem hexDigit?_digitChar : ∀ n < 16, hexDigit? (Nat.digitChar n) = some n := by decide

theorem hexBytes?_hexText (bytes : List UInt8) :
    hexBytes? (bytes.flatMap hexByte) = some bytes := by
  induction bytes with
  | nil => rfl
  | cons b bytes ih =>
    have hb : b.toNat < 256 := b.toNat_lt
    have h : UInt8.ofNat (b.toNat / 16 * 16 + b.toNat % 16) = b := by
      rw [Nat.div_add_mod', UInt8.ofNat_toNat]
    simp [hexByte, hexBytes?, ih, hexDigit?_digitChar (b.toNat / 16) (by omega),
      hexDigit?_digitChar (b.toNat % 16) (by omega), h, -UInt8.ofNat_add, -UInt8.ofNat_mul]

end VpnGateway.Text
