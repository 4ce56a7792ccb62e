/-! # Spans of time in messages

Times are whole milliseconds throughout the library. A message shows a span in the largest unit that
it fills: seconds with as many decimals as needed, else milliseconds, and nothing as `0ns`.
-/

namespace Sluice.Text

/-- Three decimals without the zeros at the end, behind a point if any is left. -/
def thousandths (n : Nat) : String :=
  if n % 1000 = 0 then ""
  else if n % 100 = 0 then "." ++ toString (n % 1000 / 100)
  else if n % 10 = 0 then
    "." ++ toString (n % 1000 / 100) ++ toString (n % 100 / 10)
  else "." ++ toString (n % 1000 / 100) ++ toString (n % 100 / 10) ++ toString (n % 10)

/-- A span of milliseconds as messages show it. -/
def span (millis : Nat) : String :=
  if millis = 0 then "0ns"
  else if millis < 1000 then toString millis ++ "ms"
  else toString (millis / 1000) ++ thousandths millis ++ "s"

example : span 0 = "0ns" ∧ span 250 = "250ms" ∧ span 2050 = "2.05s" ∧ span 60000 = "60s" := by
  decide +kernel

end Sluice.Text
