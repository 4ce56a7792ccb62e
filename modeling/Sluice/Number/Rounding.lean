/-! # Rounding

The multiple of a unit that is nearest to a number, with a half going to the even multiple, and
numbers cut to their first binary digits by this rule.
-/

namespace Sluice

/-- The multiple of `unit` nearest to `n`; of two that are equally near, the even one. -/
def roundTo (unit n : Nat) : Nat :=
  let below := n / unit
  let rest := n % unit
  if unit < 2 * rest || (unit = 2 * rest && below % 2 = 1) then (below + 1) * unit else below * unit

/-- A number rounded to its first `bits` binary digits. -/
def roundToBits (bits n : Nat) : Nat := roundTo (Nat.pow 2 (Nat.log2 n + 1 - bits)) n

end Sluice
