import VpnGateway.Proofs.RenamedSettings

/-!
# Integers within bounds

A text is read as an integer if it writes one within the bounds, and then as that integer. However long
it is, it is never read as another integer that has the same lowest bits: not where the number is put
into 64 bits, and not where it is narrowed to eight.

* `readRange_eq_ok_iff`, `readRange_eq_error_iff`: the texts of integers within bounds, and the others;
* `Reading.byte_eq_ok_iff`, `Reading.byte_eq_error_iff`: narrowed to eight bits, they are the same;
* **`integers_exact`**: so it is for both widths.
-/

namespace VpnGateway

variable {key raw : String} {min max n : Int64} {e : SettingError}

/-! ## Sixty-four bits -/

/-- The texts that are read are those that write an integer within the bounds. -/
theorem readRange_eq_ok_iff : readRange key min max raw = .ok n ↔
    Text.IsInteger raw.toList n.toInt ∧ min.toInt ≤ n.toInt ∧ n.toInt ≤ max.toInt := by
  rw [readRange_eq_ok, Text.int64?_eq_some_iff, Int64.le_iff_toInt_le, Int64.le_iff_toInt_le]

/-- An integer between two of 64 bits is one of 64 bits. -/
theorem exists_toInt_eq {z : Int} (hmin : min.toInt ≤ z) (hmax : z ≤ max.toInt) :
    ∃ n : Int64, n.toInt = z := by
  have hlow := min.le_toInt
  have hhigh := max.toInt_lt
  exact ⟨Int64.ofInt z, Int64.toInt_ofInt_of_le (by omega) (by omega)⟩

/-- The texts that are refused are all others: those that write no integer, and those that write one
outside the bounds, of whatever size. -/
theorem readRange_eq_error_iff : readRange key min max raw = .error e ↔
    (∀ z, Text.IsInteger raw.toList z → ¬(min.toInt ≤ z ∧ z ≤ max.toInt)) ∧
      e = .outOfRange key raw min max := by
  rw [readRange_eq_error]
  refine and_congr_left fun _ => ⟨fun h z hz ⟨hmin, hmax⟩ => ?_, fun h n hn ⟨hmin, hmax⟩ => ?_⟩
  · obtain ⟨n, rfl⟩ := exists_toInt_eq hmin hmax
    exact h n (Text.int64?_eq_some_iff.2 hz)
      ⟨Int64.le_iff_toInt_le.2 hmin, Int64.le_iff_toInt_le.2 hmax⟩
  · exact h n.toInt (Text.int64?_eq_some_iff.1 hn)
      ⟨Int64.le_iff_toInt_le.1 hmin, Int64.le_iff_toInt_le.1 hmax⟩

/-! ## Eight bits -/

namespace Reading

variable {policy : Policy} {s : Surroundings} {j : Journal} {low high m : UInt8} {f : Failure}

theorem lowByte_wide (b : UInt8) : lowByte (wide b) = b := by
  rw [lowByte, toInt_wide, Int.toNat_natCast, UInt8.ofNat_toNat]

/-- Between two bytes an integer is a byte. -/
theorem wide_lowByte {n : Int64} (hlow : (wide low).toInt ≤ n.toInt)
    (hhigh : n.toInt ≤ (wide high).toInt) : wide (lowByte n) = n := by
  have hbyte := high.toNat_lt
  rw [toInt_wide] at hlow hhigh
  rw [← Int64.toInt_inj, toInt_wide, lowByte, UInt8.toNat_ofNat']
  omega

theorem fst_integer : (integer key min max policy s j).1 =
    ((Reading.raw key policy s j).1 >>= fun text => verdict (readRange key min max text)) := by
  have h := congrFun (congrFun ((Getter.integer min max).read_eq key policy) s) j
  exact (congrArg Prod.fst h).trans (fst_bind_liftExcept _ _ s j)

theorem fst_byte : (byte key low high policy s j).1 =
    lowByte <$> (integer key (wide low) (wide high) policy s j).1 :=
  congrArg Prod.fst (byte_eq s j)

/-- The byte of a text is the integer that it writes. -/
theorem byte_eq_ok_iff : (byte key low high policy s j).1 = .ok m ↔
    ∃ text, (Reading.raw key policy s j).1 = .ok text ∧ Text.IsInteger text.toList m.toNat ∧
      low ≤ m ∧ m ≤ high := by
  have hbounds : low ≤ m ∧ m ≤ high ↔ (wide low).toInt ≤ (wide m).toInt ∧
      (wide m).toInt ≤ (wide high).toInt := by
    rw [toInt_wide, toInt_wide, toInt_wide, UInt8.le_iff_toNat_le, UInt8.le_iff_toNat_le]
    omega
  rw [fst_byte, fst_integer, hbounds, ← toInt_wide]
  constructor
  · intro h
    obtain ⟨n, hn, hm⟩ := except_map_eq_ok.1 h
    obtain ⟨text, htext, hread⟩ := except_bind_eq_ok.1 hn
    have hinteger := readRange_eq_ok_iff.1 (verdict_eq_ok_iff.1 hread)
    rw [← wide_lowByte hinteger.2.1 hinteger.2.2, hm] at hinteger
    exact ⟨text, htext, hinteger⟩
  · rintro ⟨text, htext, hinteger⟩
    refine except_map_eq_ok.2 ⟨wide m, except_bind_eq_ok.2 ⟨text, htext, ?_⟩, lowByte_wide m⟩
    exact verdict_eq_ok_iff.2 (readRange_eq_ok_iff.2 hinteger)

/-- No byte is read if there is no text, or if the text writes no integer within the bounds. -/
theorem byte_eq_error_iff : (byte key low high policy s j).1 = .error f ↔
    (Reading.raw key policy s j).1 = .error f ∨
      ∃ text, (Reading.raw key policy s j).1 = .ok text ∧
        (∀ z, Text.IsInteger text.toList z → ¬(low.toNat ≤ z ∧ z ≤ high.toNat)) ∧
        f = .error (.outOfRange key text (wide low) (wide high)) := by
  rw [fst_byte, except_map_eq_error, fst_integer, except_bind_eq_error]
  refine or_congr_right (exists_congr fun text => and_congr_right fun _ => ?_)
  rw [verdict_eq_error_iff]
  simp only [readRange_eq_error_iff, toInt_wide]
  exact ⟨fun ⟨e, ⟨h, he⟩, hf⟩ => ⟨h, he ▸ hf⟩, fun ⟨h, hf⟩ => ⟨_, ⟨h, rfl⟩, hf⟩⟩

end Reading

/-- **Integers are read exactly or not at all**, within bounds of 64 and of eight bits. -/
theorem integers_exact (key : String) :
    (∀ (min max : Int64) (raw : String),
      (∀ n, readRange key min max raw = .ok n ↔
        Text.IsInteger raw.toList n.toInt ∧ min.toInt ≤ n.toInt ∧ n.toInt ≤ max.toInt) ∧
      (∀ e, readRange key min max raw = .error e ↔
        (∀ z, Text.IsInteger raw.toList z → ¬(min.toInt ≤ z ∧ z ≤ max.toInt)) ∧
          e = .outOfRange key raw min max) ∧
      (max < min → readRange key min max raw = .error (.outOfRange key raw min max))) ∧
    ∀ (low high : UInt8) (policy : Policy) (s : Surroundings) (j : Journal),
      (∀ m, (Reading.byte key low high policy s j).1 = .ok m ↔
        ∃ text, (Reading.raw key policy s j).1 = .ok text ∧ Text.IsInteger text.toList m.toNat ∧
          low ≤ m ∧ m ≤ high) ∧
      ∀ f, (Reading.byte key low high policy s j).1 = .error f ↔
        (Reading.raw key policy s j).1 = .error f ∨
          ∃ text, (Reading.raw key policy s j).1 = .ok text ∧
            (∀ z, Text.IsInteger text.toList z → ¬(low.toNat ≤ z ∧ z ≤ high.toNat)) ∧
            f = .error (.outOfRange key text (Reading.wide low) (Reading.wide high)) := by
  refine ⟨fun min max raw => ⟨fun n => readRange_eq_ok_iff, fun e => readRange_eq_error_iff, ?_⟩,
    fun low high policy s j => ⟨fun m => Reading.byte_eq_ok_iff, fun f => Reading.byte_eq_error_iff⟩⟩
  intro hnone
  rw [Int64.lt_iff_toInt_lt] at hnone
  exact readRange_eq_error_iff.2 ⟨fun z _ ⟨hmin, hmax⟩ => by omega, rfl⟩

example : readRange "K" Int64.minValue 5 "-009223372036854775808" = .ok Int64.minValue ∧
    readRange "K" 0 5 "18446744073709551621" = .error (.outOfRange "K" "18446744073709551621" 0 5) :=
  ⟨rfl, rfl⟩

end VpnGateway
