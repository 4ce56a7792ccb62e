import Mathlib.Tactic.Ring
import Sluice.Number.Binary

/-! # Widening keeps the value

A single has a significand of at most 24 bits and an exponent far inside of those of doubles, so the
double that is written for it reads back as the same number with a longer significand.
-/

namespace Sluice

namespace BinaryFormat

/-- The same number, with so many more bits in the significand. -/
def Reading.lengthened (r : Reading) (bits : Nat) : Reading :=
  match r with
  | .finite negative significand exponent =>
      .finite negative (significand * Nat.pow 2 bits) (exponent - bits)
  | r => r

/-- A reading has a double of the same value. -/
def Reading.FitsDouble : Reading → Prop
  | .finite _ significand exponent =>
      significand < Nat.pow 2 53 ∧ -1022 ≤ exponent ∧ exponent ≤ 970
  | _ => True

theorem Reading.fitsDouble_single (x : Single) : x.read.FitsDouble := by
  have hfraction : x.bits.toNat % Nat.pow 2 23 < Nat.pow 2 23 := Nat.mod_lt _ (by decide)
  have hexponent : x.bits.toNat / Nat.pow 2 23 % Nat.pow 2 8 < Nat.pow 2 8 :=
    Nat.mod_lt _ (by decide)
  have hsmall : Nat.pow 2 23 = 8388608 := rfl
  have hfield : Nat.pow 2 8 = 256 := rfl
  have hlarge : Nat.pow 2 53 = 9007199254740992 := rfl
  have hleast : single.leastExponent = -149 := rfl
  have hnormal : single.leastNormal = 8388608 := rfl
  unfold Single.read BinaryFormat.read
  dsimp only
  change x.bits.toNat % Nat.pow 2 23 < _ at hfraction
  split
  · split <;> trivial
  · split
    · refine ⟨?_, by omega, by omega⟩
      change x.bits.toNat % Nat.pow 2 23 < Nat.pow 2 53
      omega
    · refine ⟨?_, ?_, ?_⟩
      · change single.leastNormal + x.bits.toNat % Nat.pow 2 23 < Nat.pow 2 53
        omega
      · change -1022 ≤ single.leastExponent + (x.bits.toNat / Nat.pow 2 23 % Nat.pow 2 8 : Nat) - 1
        omega
      · change single.leastExponent + (x.bits.toNat / Nat.pow 2 23 % Nat.pow 2 8 : Nat) - 1 ≤ 970
        omega

/-- The three fields of a number, put together and taken apart again. -/
theorem fields_apart {unit fields field fraction : Nat} (sign : Nat) (hfraction : fraction < unit)
    (hfield : field < fields) :
    (sign * (unit * fields) + field * unit + fraction) % unit = fraction ∧
      (sign * (unit * fields) + field * unit + fraction) / unit % fields = field ∧
      (sign * (unit * fields) + field * unit + fraction) / (unit * fields) = sign := by
  have hbits : sign * (unit * fields) + field * unit + fraction =
      unit * (fields * sign + field) + fraction := by ring
  have hunit : 0 < unit := Nat.lt_of_le_of_lt (Nat.zero_le _) hfraction
  have hfields : 0 < fields := Nat.lt_of_le_of_lt (Nat.zero_le _) hfield
  have hquotient : (unit * (fields * sign + field) + fraction) / unit = fields * sign + field := by
    rw [Nat.mul_add_div hunit, Nat.div_eq_of_lt hfraction, Nat.add_zero]
  rw [hbits]
  refine ⟨?_, ?_, ?_⟩
  · rw [Nat.mul_add_mod, Nat.mod_eq_of_lt hfraction]
  · rw [hquotient, Nat.mul_add_mod, Nat.mod_eq_of_lt hfield]
  · rw [← Nat.div_div_eq_div_mul, hquotient, Nat.mul_add_div hfields, Nat.div_eq_of_lt hfield,
      Nat.add_zero]

theorem signBit_eq (f : BinaryFormat) (negative : Bool) :
    write.signBit f negative =
      negative.toNat * (Nat.pow 2 f.fractionBits * Nat.pow 2 f.exponentBits) := by
  cases negative <;> simp [write.signBit, Nat.pow_add]

/-- A number is read as its fields say. -/
theorem read_fields (f : BinaryFormat) (negative : Bool) {field fraction : Nat}
    (hfraction : fraction < Nat.pow 2 f.fractionBits) (hfield : field < Nat.pow 2 f.exponentBits) :
    f.read (write.signBit f negative + field * Nat.pow 2 f.fractionBits + fraction) =
      if field = Nat.pow 2 f.exponentBits - 1 then
        if fraction = 0 then .infinite negative else .notANumber
      else if field = 0 then .finite negative fraction f.leastExponent
      else .finite negative (f.leastNormal + fraction) (f.leastExponent + field - 1) := by
  obtain ⟨hlow, hmiddle, hhigh⟩ := fields_apart negative.toNat hfraction hfield
  have hpow : Nat.pow 2 (f.fractionBits + f.exponentBits) =
      Nat.pow 2 f.fractionBits * Nat.pow 2 f.exponentBits := Nat.pow_add ..
  have hsign : decide (negative.toNat % 2 = 1) = negative := by cases negative <;> rfl
  rw [BinaryFormat.read, signBit_eq]
  simp only [hpow, hlow, hmiddle, hhigh, hsign]

/-- What is written is made of fields of a double, and read as the same number. -/
structure Keeps (r : Reading) : Prop where
  lt : double.write r < Nat.pow 2 64
  same : ∃ bits, double.read (double.write r) = r.lengthened bits

theorem keeps_of_fields {r : Reading} (negative : Bool) (field fraction bits : Nat)
    (hwrite : double.write r =
      write.signBit double negative + field * Nat.pow 2 double.fractionBits + fraction)
    (hfraction : fraction < Nat.pow 2 double.fractionBits)
    (hfield : field < Nat.pow 2 double.exponentBits)
    (hread : (if field = Nat.pow 2 double.exponentBits - 1 then
        if fraction = 0 then .infinite negative else .notANumber
      else if field = 0 then .finite negative fraction double.leastExponent
      else .finite negative (double.leastNormal + fraction) (double.leastExponent + field - 1)) =
        r.lengthened bits) : Keeps r where
  lt := by
    have hunit : Nat.pow 2 double.fractionBits = 4503599627370496 := rfl
    have hfields : Nat.pow 2 double.exponentBits = 2048 := rfl
    have hall : Nat.pow 2 64 = 18446744073709551616 := rfl
    have hsign : negative.toNat ≤ 1 := Bool.toNat_le negative
    rw [hwrite, signBit_eq, hall]
    rw [hunit] at hfraction ⊢
    rw [hfields] at hfield ⊢
    omega
  same := ⟨bits, by rw [hwrite, read_fields double negative hfraction hfield, hread]⟩

theorem keeps_zero {negative : Bool} {exponent : Int} (hlow : -1022 ≤ exponent) :
    Keeps (.finite negative 0 exponent) := by
  refine keeps_of_fields negative 0 0 (exponent + 1074).toNat (by simp [write]) (by decide)
    (by decide) ?_
  have hleast : double.leastExponent = exponent - (exponent + 1074).toNat := by
    rw [Int.toNat_of_nonneg (by omega)]
    exact (by omega : (-1074 : Int) = exponent - (exponent + 1074))
  rw [if_neg (by decide), if_pos rfl, hleast, Reading.lengthened, Nat.zero_mul]

/-- The highest bit of a significand goes without saying, and the others are moved up to it. -/
theorem keeps_finite {negative : Bool} {significand : Nat} {exponent : Int}
    (hzero : significand ≠ 0) (hsignificand : significand < Nat.pow 2 53)
    (hlow : -1022 ≤ exponent) (hhigh : exponent ≤ 970) :
    Keeps (.finite negative significand exponent) := by
  obtain ⟨top, htop⟩ : ∃ top, Nat.log2 significand = top := ⟨_, rfl⟩
  have hle : top ≤ 52 := by
    have := (Nat.log2_lt hzero).mpr hsignificand
    omega
  have hbelow : Nat.pow 2 top ≤ significand := htop ▸ Nat.log2_self_le hzero
  have habove : significand < Nat.pow 2 (top + 1) := htop ▸ Nat.lt_log2_self
  have hshift : Nat.pow 2 top * Nat.pow 2 (52 - top) = Nat.pow 2 52 := by
    change 2 ^ top * 2 ^ (52 - top) = 2 ^ 52
    rw [← Nat.pow_add, Nat.add_sub_cancel' hle]
  have hrest : (significand - Nat.pow 2 top) * Nat.pow 2 (52 - top) < Nat.pow 2 52 := by
    rw [← hshift]
    refine Nat.mul_lt_mul_of_pos_right ?_ (Nat.pow_pos (by decide))
    change significand < 2 ^ (top + 1) at habove
    change significand - 2 ^ top < 2 ^ top
    rw [Nat.pow_succ] at habove
    omega
  have hsum : Nat.pow 2 52 + (significand - Nat.pow 2 top) * Nat.pow 2 (52 - top) =
      significand * Nat.pow 2 (52 - top) := by
    rw [← hshift, ← Nat.add_mul, Nat.add_sub_cancel' hbelow]
  refine keeps_of_fields negative (exponent + top + 1023).toNat
    ((significand - Nat.pow 2 top) * Nat.pow 2 (52 - top)) (52 - top) ?_ hrest ?_ ?_
  · simp only [write, if_neg hzero, htop]
    rfl
  · change (exponent + top + 1023).toNat < 2048
    omega
  · have hfirst : (exponent + top + 1023).toNat ≠ Nat.pow 2 double.exponentBits - 1 := by
      change (exponent + top + 1023).toNat ≠ 2047
      omega
    have hsecond : (exponent + top + 1023).toNat ≠ 0 := by omega
    have hexponent : double.leastExponent + (exponent + top + 1023).toNat - 1 =
        exponent - (52 - top : Nat) := by
      change (-1074 : Int) + (exponent + top + 1023).toNat - 1 = _
      omega
    rw [if_neg hfirst, if_neg hsecond, hexponent, Reading.lengthened]
    exact congrArg (Reading.finite negative · _) hsum

theorem keeps_of_fitsDouble {r : Reading} (h : r.FitsDouble) : Keeps r := by
  cases r with
  | notANumber => exact ⟨by decide, 0, by decide⟩
  | infinite negative => cases negative <;> exact ⟨by decide, 0, by decide⟩
  | finite negative significand exponent =>
      obtain ⟨hsignificand, hlow, hhigh⟩ := h
      by_cases hzero : significand = 0
      · exact hzero ▸ keeps_zero hlow
      · exact keeps_finite hzero hsignificand hlow hhigh

end BinaryFormat

/-- A single that is widened stands for the same number. -/
theorem Single.read_widen (x : Single) : ∃ bits, x.widen.read = x.read.lengthened bits := by
  obtain ⟨hlt, hsame⟩ := BinaryFormat.keeps_of_fitsDouble
    (BinaryFormat.Reading.fitsDouble_single x)
  have hbits : x.widen.bits.toNat = BinaryFormat.double.write x.read :=
    UInt64.toNat_ofNat_of_lt' hlt
  rwa [Double.read, hbits]

end Sluice
