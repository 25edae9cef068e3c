import SyntheticRows.Number.BinaryFraction
import SyntheticRows.Random.Draw
/-!
Draws of fractions with the precision of binary floating-point numbers.
-/

namespace SyntheticRows.Draw

/-- A number from 0 up to `factor` with the precision of 24 bits. -/
def singleUpTo (factor : Nat) : Draw BinaryFraction := do
  let draw ← word
  pure (BinaryFraction.roundTo 24 ⟨(draw >>> 8).toNat * factor, 24⟩)

/-- A number from 0 up to `factor` with the precision of 53 bits. -/
def doubleUpTo (factor : Nat) : Draw BinaryFraction := do
  let draw ← long
  pure (BinaryFraction.roundTo 53 ⟨(draw >>> 11).toNat * factor, 53⟩)

/-- A number between two whole numbers with the precision of 53 bits. -/
def doubleBetween (low high : Int) : Draw BinaryFraction := do
  let draw ← long
  let scaled := BinaryFraction.roundTo 53 ⟨(draw >>> 12).toNat * (high - low), 52⟩
  pure ((scaled.addInteger low).roundTo 53)

end SyntheticRows.Draw
