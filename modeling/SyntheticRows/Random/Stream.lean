/-!
A reproducible stream of random words: ChaCha with eight rounds, a block counter of 64 bits and no
nonce. The key is spread from a seed of 64 bits.
-/

namespace SyntheticRows

/-- A place in the key stream of a key. -/
structure RandomStream where
  key : Vector UInt32 8
  /-- How many words have been taken. -/
  position : Nat
  deriving DecidableEq, Repr

namespace RandomStream

def rotateLeft (word : UInt32) (amount : UInt32) : UInt32 :=
  (word <<< amount) ||| (word >>> (32 - amount))

def rotateRight (word : UInt32) (amount : UInt32) : UInt32 :=
  (word >>> amount) ||| (word <<< (32 - amount))

/-- The state of the linear congruence that spreads a seed, one step on. -/
def nextSpread (state : UInt64) : UInt64 :=
  state * 6364136223846793005 + 11634580027462260723

/-- The word that a state of the spreading yields: its upper bits, mixed and rotated. -/
def spreadWord (state : UInt64) : UInt32 :=
  rotateRight (((state >>> 18) ^^^ state) >>> 27).toUInt32 (state >>> 59).toUInt32

def spreadStates : Nat → UInt64 → List UInt64
  | 0, _ => []
  | count + 1, state => nextSpread state :: spreadStates count (nextSpread state)

theorem length_spreadStates (count : Nat) (state : UInt64) :
    (spreadStates count state).length = count := by
  induction count generalizing state with
  | zero => rfl
  | succ count ih => simp [spreadStates, ih]

def keyOfSeed (seed : UInt64) : Vector UInt32 8 :=
  ⟨((spreadStates 8 seed).map spreadWord).toArray, by simp [length_spreadStates]⟩

def ofSeed (seed : UInt64) : RandomStream :=
  { key := keyOfSeed seed, position := 0 }

abbrev Block := Vector UInt32 16

def quarterRound (block : Block) (a b c d : Fin 16) : Block :=
  let block := block.set a (block[a] + block[b])
  let block := block.set d (rotateLeft (block[d] ^^^ block[a]) 16)
  let block := block.set c (block[c] + block[d])
  let block := block.set b (rotateLeft (block[b] ^^^ block[c]) 12)
  let block := block.set a (block[a] + block[b])
  let block := block.set d (rotateLeft (block[d] ^^^ block[a]) 8)
  let block := block.set c (block[c] + block[d])
  block.set b (rotateLeft (block[b] ^^^ block[c]) 7)

/-- A round on the columns and a round on the diagonals. -/
def doubleRound (block : Block) : Block :=
  let block := quarterRound block 0 4 8 12
  let block := quarterRound block 1 5 9 13
  let block := quarterRound block 2 6 10 14
  let block := quarterRound block 3 7 11 15
  let block := quarterRound block 0 5 10 15
  let block := quarterRound block 1 6 11 12
  let block := quarterRound block 2 7 8 13
  quarterRound block 3 4 9 14

def constants : Vector UInt32 4 :=
  #v[0x61707865, 0x3320646e, 0x79622d32, 0x6b206574]

def initialBlock (key : Vector UInt32 8) (counter : UInt64) : Block :=
  (constants ++ key ++
    (#v[counter.toUInt32, (counter >>> 32).toUInt32, 0, 0] : Vector UInt32 4))

def block (key : Vector UInt32 8) (counter : UInt64) : Block :=
  let start := initialBlock key counter
  let mixed := doubleRound (doubleRound (doubleRound (doubleRound start)))
  mixed.zipWith (· + ·) start

/-- The word at a place of the key stream. -/
def wordAt (key : Vector UInt32 8) (position : Nat) : UInt32 :=
  (block key (position / 16).toUInt64).get ⟨position % 16, Nat.mod_lt _ (by decide)⟩

def next (stream : RandomStream) : UInt32 × RandomStream :=
  (wordAt stream.key stream.position, { stream with position := stream.position + 1 })

end RandomStream

end SyntheticRows
