/-! # White space

The characters of the `White_Space` property, and texts without white space at their ends. Settings,
placeholder names and property lines are all trimmed by this one rule.
-/

namespace Sluice.Text

/-- The code points of the `White_Space` property, as closed ranges. -/
def blankRanges : List (Nat × Nat) :=
  [(0x09, 0x0d), (0x20, 0x20), (0x85, 0x85), (0xa0, 0xa0), (0x1680, 0x1680), (0x2000, 0x200a),
    (0x2028, 0x2029), (0x202f, 0x202f), (0x205f, 0x205f), (0x3000, 0x3000)]

/-- Whether a character has the `White_Space` property. -/
def isBlank (c : Char) : Bool :=
  blankRanges.any (fun range => range.1 ≤ c.toNat && c.toNat ≤ range.2)

def dropBlank (cs : List Char) : List Char := cs.dropWhile isBlank

/-- The characters without the white space at the end. -/
def dropBlankEnd (cs : List Char) : List Char := (dropBlank cs.reverse).reverse

/-- The characters without the white space at either end. -/
def trimChars (cs : List Char) : List Char := dropBlankEnd (dropBlank cs)

/-- The text without the white space at either end. -/
def trim (s : String) : String := String.ofList (trimChars s.toList)

theorem dropBlank_eq_nil_iff {cs : List Char} :
    dropBlank cs = [] ↔ ∀ c ∈ cs, isBlank c = true := by
  induction cs with
  | nil => simp [dropBlank]
  | cons c rest ih => by_cases h : isBlank c = true <;> simp_all [dropBlank]

end Sluice.Text
