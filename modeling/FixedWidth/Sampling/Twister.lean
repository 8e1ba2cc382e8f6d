import FixedWidth.Sampling.Source

/-!
# The Mersenne twister

A source of chance with a period of `2 ^ 19937 - 1`, over a state of 624 words.
It is seeded with an integer of any size, taken in words, and the same seed gives
the same draws.

A number below a bound is drawn in as many bits as the bound has, again and
again until it is below it. The bound on the attempts is never met in practice;
it is there so that the drawing ends whatever the words are.
-/

namespace FixedWidth.Sampling

/-- The state of the twister. -/
structure Twister where
  words : Array UInt32
  /-- How many words have been given out since the state was last renewed. -/
  used : Nat

namespace Twister

/-- The count of words in a state. -/
def size : Nat := 624

/-- A word of a state. -/
def word (words : Array UInt32) (i : Nat) : UInt32 :=
  words.getD i 0

/-- The words that the generating recurrence makes of one. -/
def spread (seed : UInt32) : Array UInt32 :=
  (List.range (size - 1)).foldl (fun (words : Array UInt32) i =>
    let last := word words i
    words.push ((last ^^^ (last >>> 30)) * 1812433253 + UInt32.ofNat (i + 1))) #[seed]

/-- A state while a seed is mixed into it: the words and the next place. -/
structure Mixing where
  words : Array UInt32
  place : Nat

/-- Writes the next word and goes on to the place behind it, past the end to the
second place. -/
def Mixing.write (m : Mixing) (w : UInt32) : Mixing :=
  let words := m.words.setIfInBounds m.place w
  if m.place + 1 < size then ⟨words, m.place + 1⟩ else ⟨words.setIfInBounds 0 w, 1⟩

/-- The word before the next place, spread by a factor, under the next word. -/
def Mixing.blend (m : Mixing) (factor : UInt32) : UInt32 :=
  let last := word m.words (m.place - 1)
  word m.words m.place ^^^ ((last ^^^ (last >>> 30)) * factor)

/-- A step of the mixing with the words of a key in turn. -/
def Mixing.withKey (key : Array UInt32) (m : Mixing) (step : Nat) : Mixing :=
  let j := step % key.size
  m.write (m.blend 1664525 + word key j + UInt32.ofNat j)

/-- A step of the mixing without a key. -/
def Mixing.withoutKey (m : Mixing) : Mixing :=
  m.write (m.blend 1566083941 - UInt32.ofNat m.place)

/-- A state with a key of words mixed in. -/
def ofKey (key : Array UInt32) : Twister :=
  let m := (List.range (max size key.size)).foldl (Mixing.withKey key) ⟨spread 19650218, 1⟩
  let m := (List.range (size - 1)).foldl (fun (m : Mixing) _ => m.withoutKey) m
  ⟨m.words.setIfInBounds 0 0x80000000, size⟩

/-- The words of a number, the least significant first; zero has one. -/
def keyWords (n : Nat) : Array UInt32 :=
  let count := max 1 ((Nat.log2 n + 32) / 32)
  ((List.range count).map fun i => UInt32.ofNat (n / Nat.pow 2 (32 * i) % Nat.pow 2 32)).toArray

/-- **The state of a seed**, whose sign does not count. -/
def ofSeed (seed : Int) : Twister :=
  ofKey (keyWords seed.natAbs)

/-- A state with all its words renewed. -/
def renew (words : Array UInt32) : Array UInt32 :=
  (List.range size).foldl (fun (words : Array UInt32) i =>
    let y := (word words i &&& 0x80000000) ||| (word words ((i + 1) % size) &&& 0x7FFFFFFF)
    let twist : UInt32 := if y &&& 1 = 0 then 0 else 0x9908B0DF
    words.setIfInBounds i (word words ((i + 397) % size) ^^^ (y >>> 1) ^^^ twist)) words

/-- A word as it is given out. -/
def temper (y : UInt32) : UInt32 :=
  let y := y ^^^ (y >>> 11)
  let y := y ^^^ ((y <<< 7) &&& 0x9D2C5680)
  let y := y ^^^ ((y <<< 15) &&& 0xEFC60000)
  y ^^^ (y >>> 18)

/-- The next word. -/
def next (t : Twister) : UInt32 × Twister :=
  let t := if t.used < size then t else ⟨renew t.words, 0⟩
  (temper (word t.words t.used), ⟨t.words, t.used + 1⟩)

/-- A number of so many bits, from words the least significant of which comes
first; of the last one the highest bits are taken. -/
def bitsFrom : (words bits : Nat) → Twister → Nat × Twister
  | 0, _, t => (0, t)
  | words + 1, bits, t =>
    let (w, t) := t.next
    if bits < 32 then ((w >>> UInt32.ofNat (32 - bits)).toNat, t)
    else
      let (rest, t) := bitsFrom words (bits - 32) t
      (w.toNat + Nat.pow 2 32 * rest, t)

/-- A number of so many bits. -/
def bits (count : Nat) (t : Twister) : Nat × Twister :=
  bitsFrom ((count + 31) / 32) count t

/-- How often a number below a bound is drawn at most. -/
def attempts : Nat := 4096

/-- A number below a bound, drawn at most so many times. -/
def belowWithin : (attempts : Nat) → (bound : Nat) → 0 < bound → Twister → Fin bound × Twister
  | 0, _, h, t => (⟨0, h⟩, t)
  | attempts + 1, bound, h, t =>
    let (n, t) := t.bits (Nat.log2 bound + 1)
    if hn : n < bound then (⟨n, hn⟩, t) else belowWithin attempts bound h t

/-- A side of a coin: the first bit of two words. -/
def coin (t : Twister) : Bool × Twister :=
  let (first, t) := t.next
  let (_, t) := t.next
  (first < 0x80000000, t)

/-- **The twister as a source of chance.** -/
def source : Source Twister where
  below := belowWithin attempts
  coin := coin

end Twister

end FixedWidth.Sampling
