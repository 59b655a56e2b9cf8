/-!
# Drawn values

Operations without operands may use chance.  The values they will draw, meant to be at least `0` and
less than `1`, are laid down beforehand: a supply gives the value of every draw by its number, and
knows how many were used.
-/

namespace PocketCalc

/-- A supply of values to draw, numbered from zero, of which the first `used` are gone. -/
structure Draws where
  value : Nat → Float
  used : Nat := 0

namespace Draws

def next (draws : Draws) : Float :=
  draws.value draws.used

def advance (draws : Draws) (count : Nat) : Draws :=
  { draws with used := draws.used + count }

@[simp]
theorem advance_zero (draws : Draws) : draws.advance 0 = draws :=
  rfl

@[simp]
theorem advance_advance (draws : Draws) (first second : Nat) :
    (draws.advance first).advance second = draws.advance (first + second) := by
  simp [advance, Nat.add_assoc]

/-- A well mixed word for every number, by two rounds of shifting and multiplying. -/
def mix (word : UInt64) : UInt64 :=
  let first := (word ^^^ (word >>> 30)) * 0xbf58476d1ce4e5b9
  let second := (first ^^^ (first >>> 27)) * 0x94d049bb133111eb
  second ^^^ (second >>> 31)

/-- A supply that is fixed by its seed: 53 mixed bits for every draw, read as a binary fraction. -/
def ofSeed (seed : UInt64) : Draws where
  value index :=
    let bits := mix (seed + (UInt64.ofNat index + 1) * 0x9e3779b97f4a7c15) >>> 11
    bits.toFloat / 9007199254740992

end Draws

end PocketCalc
