import Sluice.Number.Binary

/-! # Shortest decimals

A floating point number is shown with the fewest digits that read back to it, and of those with the
digits nearest to it; of two equally near the greater. The digits are always written out in full,
never with an exponent. `shortest` searches the decimal grids from coarse to fine for a point of the
interval that rounds to the number.
-/

namespace Sluice

/-- A positive number of a binary format between the neighbours that it is told apart from, all
three as multiples of one power of two: `below`, `value` and `above` times `2 ^ exponent`. -/
structure RoundingInterval where
  /-- Half way to the next smaller number. -/
  below : Nat
  /-- The number itself. -/
  value : Nat
  /-- Half way to the next greater number. -/
  above : Nat
  /-- The exponent of the common power of two. -/
  exponent : Int
  /-- Whether the ends of the interval round to the number. -/
  closed : Bool
deriving DecidableEq, Repr

namespace RoundingInterval

/-- The interval that rounds to `significand * 2 ^ exponent`. The numbers below a power of two lie
twice as close as those above it. -/
def of (f : BinaryFormat) (significand : Nat) (exponent : Int) : RoundingInterval where
  below := if significand = f.leastNormal then 4 * significand - 1 else 4 * significand - 2
  value := 4 * significand
  above := 4 * significand + 2
  exponent := exponent - 2
  closed := significand % 2 = 0

/-- The factor that brings the bounds of the interval onto the scale of `10 ^ place`. -/
def boundFactor (i : RoundingInterval) (place : Int) : Nat :=
  Nat.pow 2 i.exponent.toNat * Nat.pow 10 (-place).toNat

/-- The factor that brings points of the grid of `10 ^ place` onto the scale of the bounds. -/
def gridFactor (i : RoundingInterval) (place : Int) : Nat :=
  Nat.pow 2 (-i.exponent).toNat * Nat.pow 10 place.toNat

/-- Whether the point `n * 10 ^ place` rounds to the number. -/
def holds (i : RoundingInterval) (place : Int) (n : Nat) : Bool :=
  let point := n * i.gridFactor place
  let below := i.below * i.boundFactor place
  let above := i.above * i.boundFactor place
  if i.closed then below ≤ point && point ≤ above else below < point && point < above

/-- The points of the grid of `10 ^ place` next to the number, at most one of them above it. -/
def floorPoint (i : RoundingInterval) (place : Int) : Nat :=
  i.value * i.boundFactor place / i.gridFactor place

/-- The point of the grid of `10 ^ place` that rounds to the number and lies nearest to it. -/
def nearest? (i : RoundingInterval) (place : Int) : Option Nat :=
  let low := i.floorPoint place
  let high := low + 1
  match i.holds place low, i.holds place high with
  | true, false => some low
  | false, true => some high
  | false, false => none
  | true, true =>
      let value := i.value * i.boundFactor place
      let toLow := value - low * i.gridFactor place
      let toHigh := high * i.gridFactor place - value
      some (if toHigh ≤ toLow then high else low)

/-- Look for a point on the grids of `10 ^ place` and the next finer ones. -/
def search (i : RoundingInterval) : Nat → Int → Nat × Int
  | 0, place => (i.floorPoint place, place)
  | grids + 1, place =>
      match i.nearest? place with
      | some n => (n, place)
      | none => i.search grids (place - 1)

/-- A place so high that `10 ^ place` lies above the interval. -/
def startPlace (i : RoundingInterval) : Int :=
  (((Nat.log2 i.above : Int) + 1 + i.exponent) * 30103 / 100000) + 1

/-- The shortest decimal that rounds to the number: digits and the place of the last of them. -/
def shortest (i : RoundingInterval) : Nat × Int := i.search 24 i.startPlace

end RoundingInterval

/-- A decimal `digits * 10 ^ place` written out in full. -/
def positional (digits : Nat) (place : Int) : String :=
  let shown := Nat.toDigits 10 digits
  if 0 ≤ place then String.ofList (shown ++ List.replicate place.toNat '0')
  else
    let decimals := (-place).toNat
    if decimals < shown.length then
      String.ofList (shown.take (shown.length - decimals) ++ '.' ::
        shown.drop (shown.length - decimals))
    else String.ofList ('0' :: '.' :: List.replicate (decimals - shown.length) '0' ++ shown)

/-- The text of what the bits of a number stand for. -/
def BinaryFormat.render (f : BinaryFormat) : BinaryFormat.Reading → String
  | .notANumber => "NaN"
  | .infinite negative => (if negative then "-" else "") ++ "inf"
  | .finite negative significand exponent =>
      let shown :=
        if significand = 0 then "0"
        else
          let decimal := (RoundingInterval.of f significand exponent).shortest
          positional decimal.1 decimal.2
      (if negative then "-" else "") ++ shown

def Double.render (x : Double) : String := BinaryFormat.double.render x.read

/-- The text of a single, which its own precision decides. -/
def Single.render (x : Single) : String := BinaryFormat.single.render x.read

example : Double.render ⟨0x3fb999999999999a⟩ = "0.1" ∧ Single.render ⟨0x3dcccccd⟩ = "0.1" ∧
    Double.render ⟨0x8000000000000000⟩ = "-0" := by decide +kernel

end Sluice
