import Sluice.Proofs.Wire.Reading
import Sluice.Scalar

/-! # Scalars are read back

A scalar that travels as an application object is decoded as itself, and nothing is decoded out of a
payload that is no object.
-/

namespace Sluice

open Wire Decoder

/-! ### Numbers of up to 128 bits -/

namespace Wire

/-- The widths of numbers that are written behind a marker. -/
def IsMarked (bytes : Nat) : Prop := IsWidth bytes ∨ bytes = 16

/-- Who asks for wider numbers reads the same. -/
theorem reads_decodeNat_wider {narrow wide n : Nat} {bytes : Bytes} (hle : narrow ≤ wide)
    (h : (decodeNat narrow).Reads bytes n) : (decodeNat wide).Reads bytes n := by
  intro rest
  have hread := h rest
  rcases hinput : bytes ++ rest with - | ⟨first, behind⟩
  · rw [hinput] at hread
    cases hread
  · rw [hinput] at hread
    change (if first.toNat < 251 then _ else _ : Decoder Nat) behind = _ at hread
    change (if first.toNat < 251 then _ else _ : Decoder Nat) behind = _
    split at hread
    next hsmall => rwa [if_pos hsmall]
    next hlarge =>
      rw [if_neg hlarge]
      cases hmarker : markerWidth? first with
      | none =>
          rw [hmarker] at hread
          cases hread
      | some count =>
          rw [hmarker] at hread
          dsimp only at hread ⊢
          split at hread
          next hfits => rwa [if_pos (Nat.le_trans hfits hle)]
          next => cases hread

theorem reads_decodeNat_marked {bytes n : Nat} (hbytes : IsMarked bytes)
    (hn : n < Nat.pow 256 bytes) : (decodeNat bytes).Reads (encodeNat n) n := by
  rcases hbytes with hwidth | rfl
  · exact reads_decodeNat hwidth hn
  · by_cases hlong : n < Nat.pow 256 8
    · exact reads_decodeNat_wider (by decide) (reads_decodeNat (.inr (.inr rfl)) hlong)
    · have hlarge : Nat.pow 256 8 ≤ n := Nat.le_of_not_lt hlong
      have hbounds : 251 ≤ Nat.pow 256 8 ∧ Nat.pow 2 16 ≤ Nat.pow 256 8 ∧
          Nat.pow 2 32 ≤ Nat.pow 256 8 := by decide
      unfold encodeNat
      rw [if_neg (by omega), if_neg (by omega), if_neg (by omega), if_neg hlong]
      exact reads_marked (by decide) rfl (by decide) hn

theorem reads_unsigned {bytes : Nat} (hbytes : IsMarked bytes) (n : BitVec (8 * bytes)) :
    Reads (decodeNat bytes >>= fun k => pure (BitVec.ofNat (8 * bytes) k)) (encodeNat n.toNat) n := by
  have hn : n.toNat < Nat.pow 256 bytes := by
    have hpow : Nat.pow 256 bytes = 2 ^ (8 * bytes) := (Nat.pow_mul 2 8 bytes).symm
    rw [hpow]
    exact n.isLt
  have hread := (reads_decodeNat_marked hbytes hn).map (BitVec.ofNat (8 * bytes))
  rwa [BitVec.ofNat_toNat, BitVec.setWidth_eq] at hread

theorem reads_signed {bytes : Nat} (hbytes : IsMarked bytes) (n : BitVec (8 * bytes)) :
    Reads (decodeInt bytes >>= fun i => pure (BitVec.ofInt (8 * bytes) i)) (encodeInt n.toInt) n := by
  have hn : zigzag n.toInt < Nat.pow 256 bytes := by
    have hpow : Nat.pow 256 bytes = 2 ^ (8 * bytes) := (Nat.pow_mul 2 8 bytes).symm
    have hlow := BitVec.le_two_mul_toInt (x := n)
    have hhigh := BitVec.two_mul_toInt_lt (x := n)
    have hpower : ((2 ^ (8 * bytes) : Nat) : Int) = 2 ^ (8 * bytes) := by push_cast; rfl
    rw [hpow]
    unfold zigzag
    split
    next k hk =>
      rw [hk] at hhigh
      change 2 * (k : Int) < _ at hhigh
      omega
    next k hk =>
      rw [hk, Int.negSucc_eq] at hlow
      omega
  have hread := (reads_decodeNat_marked hbytes hn).map unzigzag
  rw [unzigzag_zigzag] at hread
  have hvalue := hread.map (BitVec.ofInt (8 * bytes))
  rwa [BitVec.ofInt_toInt] at hvalue

theorem reads_byte (n : BitVec 8) :
    Reads (takeByte >>= fun b => pure (BitVec.ofNat 8 b.toNat)) [UInt8.ofNat n.toNat] n := by
  have hread := (reads_takeByte (UInt8.ofNat n.toNat)).map fun b => BitVec.ofNat 8 b.toNat
  rwa [UInt8.toNat_ofNat', Nat.mod_eq_of_lt n.isLt, BitVec.ofNat_toNat, BitVec.setWidth_eq] at hread

end Wire

/-! ### Scalars -/

namespace ScalarType

/-- The numbers of the type have a width that numbers can have. -/
def IsFixed : ScalarType → Prop
  | .unsigned bytes => bytes = 1 ∨ IsMarked bytes
  | .signed bytes => bytes = 1 ∨ IsMarked bytes
  | _ => True

theorem reads {t : ScalarType} (ht : t.IsFixed) {x : t.Carrier}
    (hsize : (t.encode x).length < Nat.pow 2 64) : t.decoder.Reads (t.encode x) x := by
  cases t with
  | unsigned bytes =>
      rcases ht with rfl | hbytes
      · exact reads_byte x
      · rcases hbytes with (rfl | rfl | rfl) | rfl
        · exact reads_unsigned (.inl (.inl rfl)) x
        · exact reads_unsigned (.inl (.inr (.inl rfl))) x
        · exact reads_unsigned (.inl (.inr (.inr rfl))) x
        · exact reads_unsigned (.inr rfl) x
  | signed bytes =>
      rcases ht with rfl | hbytes
      · exact reads_byte x
      · rcases hbytes with (rfl | rfl | rfl) | rfl
        · exact reads_signed (.inl (.inl rfl)) x
        · exact reads_signed (.inl (.inr (.inl rfl))) x
        · exact reads_signed (.inl (.inr (.inr rfl))) x
        · exact reads_signed (.inr rfl) x
  | single => exact reads_decodeSingle x
  | double => exact reads_decodeDouble x
  | boolean => exact reads_decodeBool x
  | char => exact reads_decodeChar x
  | string =>
      have hlength : (encodeString x).length < Nat.pow 2 64 := hsize
      refine reads_decodeString ?_
      rw [encodeString, encodeBytes, List.length_append, Bytes.length_ofString] at hlength
      omega

theorem decode_toObject {t : ScalarType} (ht : t.IsFixed) {x : t.Carrier}
    (hsize : (t.encode x).length < Nat.pow 2 64) :
    t.decode (.object t.name (t.encode x)) = some (.ok x) :=
  congrArg some (reads ht hsize).decode

end ScalarType

end Sluice
