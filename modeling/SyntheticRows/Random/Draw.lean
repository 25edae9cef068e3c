import SyntheticRows.Random.Stream
/-!
Draws from a random stream: words, bits, numbers of a range and elements of a list.
-/

namespace SyntheticRows

/-- A value that is computed from the next words of a random stream. -/
abbrev Draw := StateM RandomStream

namespace Draw

def word : Draw UInt32 := fun stream => stream.next

/-- Two words, the low half first. -/
def long : Draw UInt64 := do
  let low ← word
  let high ← word
  pure (low.toUInt64 ||| (high.toUInt64 <<< 32))

/-- A number below `count`, from draws below `span`. A draw is scaled to the range; where its
fraction could carry, a second draw decides. -/
def scaled (span : Nat) (draw : Draw Nat) (count : Nat) : Draw Nat := do
  let first ← draw
  let result := first * count / span
  let fraction := first * count % span
  if fraction > span - count then
    let second ← draw
    if fraction + second * count / span ≥ span then pure (result + 1) else pure result
  else pure result

def below32 (count : Nat) : Draw Nat :=
  scaled UInt32.size (UInt32.toNat <$> word) count

def below64 (count : Nat) : Draw Nat :=
  scaled UInt64.size (UInt64.toNat <$> long) count

/-- A number from `low` up to but not including `high`, from a draw of one word. -/
def range (low high : Nat) : Draw Nat :=
  (low + ·) <$> below32 (high - low)

/-- An integer from `low` up to but not including `high`, from a draw of two words. -/
def integer (low high : Int) : Draw Int :=
  (low + Int.ofNat ·) <$> below64 (high - low).toNat

/-- A size from `low` up to but not including `high`. Two words are drawn only where one could not
reach the upper bound. -/
def size (low high : Nat) : Draw Nat :=
  if high < UInt32.size then range low high else (low + ·) <$> below64 (high - low)

def pick {α : Type} (default : α) (values : List α) : Draw α := do
  let position ← size 0 values.length
  pure (values.getD position default)

def pickText (values : List String) : Draw String :=
  pick "" values

/-- A fair bit from two words. -/
def bool : Draw Bool := do
  let draw ← long
  pure (draw < 0x8000000000000000)

/-- A fair bit from one word: its topmost. -/
def coin : Draw Bool := do
  let draw ← word
  pure (0x80000000 ≤ draw)

def byte : Draw Nat := do
  let draw ← word
  pure (draw.toNat % UInt8.size)

/-- A number of sixteen bits. -/
def half : Draw Nat := do
  let draw ← word
  pure (draw.toNat % UInt16.size)

def times {α : Type} (draw : Draw α) : Nat → Draw (List α)
  | 0 => pure []
  | count + 1 => do
      let first ← draw
      let rest ← times draw count
      pure (first :: rest)

end Draw

end SyntheticRows
