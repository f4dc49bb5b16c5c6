import Tabletop.Binary

/-!
The Mersenne twister on 32-bit words: a table of 624 words, refreshed as a whole when it is used
up, each word tempered on its way out. A draw joins two words to a fraction of 53 bits.
-/

namespace Tabletop

/-- The words of the generator and the number of words used since the last refresh. -/
structure Twister where
  words : Array UInt32
  used : Nat

namespace Twister

/-- Words in the table. -/
def tableSize : Nat := 624

/-- The distance between words that are mixed in a refresh. -/
def reach : Nat := 397

/-! ## Seeding -/

/-- A word with its two highest bits mixed in below. -/
def stirred (word : UInt32) : UInt32 :=
  word ^^^ (word >>> 30)

/-- The table that a single word gives. -/
def fill (word : UInt32) : Array UInt32 :=
  (List.range (tableSize - 1)).foldl
    (fun words place =>
      words.push (1812433253 * stirred (words.getD place 0) + UInt32.ofNat (place + 1)))
    #[word]

/-- One seeding step at a place of the table; the last word is copied to the front at the end of
each round. -/
def mixAt (words : Array UInt32) (place : Nat) (mix : UInt32 → UInt32 → UInt32) :
    Array UInt32 × Nat :=
  let words := words.setIfInBounds place
    (mix (words.getD place 0) (stirred (words.getD (place - 1) 0)))
  if place + 1 < tableSize then (words, place + 1)
  else (words.setIfInBounds 0 (words.getD (tableSize - 1) 0), 1)

/-- Stirs the words of a key into the table. -/
def stirKey (key : Array UInt32) (words : Array UInt32) : Array UInt32 × Nat :=
  (List.range (max tableSize key.size)).foldl
    (fun (words, place) step =>
      let index := step % key.size
      mixAt words place fun word previous =>
        (word ^^^ (previous * 1664525)) + key.getD index 0 + UInt32.ofNat index)
    (words, 1)

/-- Stirs the table once more without a key. -/
def settle (start : Array UInt32 × Nat) : Array UInt32 :=
  ((List.range (tableSize - 1)).foldl
    (fun (words, place) _ =>
      mixAt words place fun word previous =>
        (word ^^^ (previous * 1566083941)) - UInt32.ofNat place)
    start).1

/-- The words of a number, lowest first; zero has one word. -/
def keyWords (seed : Nat) : List UInt32 :=
  if h : seed < 4294967296 then [UInt32.ofNat seed]
  else UInt32.ofNat (seed % 4294967296) :: keyWords (seed / 4294967296)
termination_by seed
decreasing_by exact Nat.div_lt_self (by omega) (by omega)

/-- The generator that a seed gives; its sign does not count. -/
def ofSeed (seed : Int) : Twister :=
  let words := settle (stirKey (keyWords seed.natAbs).toArray (fill 19650218))
  ⟨words.setIfInBounds 0 0x80000000, tableSize⟩

/-! ## Drawing -/

/-- The new word at a place of the table. -/
def refreshAt (words : Array UInt32) (place : Nat) : Array UInt32 :=
  let joined := (words.getD place 0 &&& 0x80000000) |||
    (words.getD ((place + 1) % tableSize) 0 &&& 0x7fffffff)
  let twisted := (joined >>> 1) ^^^ (if joined &&& 1 == 1 then 0x9908b0df else 0)
  words.setIfInBounds place (words.getD ((place + reach) % tableSize) 0 ^^^ twisted)

/-- All words anew, from first to last. -/
def refresh (words : Array UInt32) : Array UInt32 :=
  (List.range tableSize).foldl refreshAt words

/-- Evens out the bits of a word. -/
def temper (word : UInt32) : UInt32 :=
  let word := word ^^^ (word >>> 11)
  let word := word ^^^ ((word <<< 7) &&& 0x9d2c5680)
  let word := word ^^^ ((word <<< 15) &&& 0xefc60000)
  word ^^^ (word >>> 18)

/-- The next word. -/
def nextWord (state : Twister) : UInt32 × Twister :=
  let state := if state.used < tableSize then state else ⟨refresh state.words, 0⟩
  (temper (state.words.getD state.used 0), { state with used := state.used + 1 })

/-- The next draw: a multiple of `2 ^ (-53)` below one. -/
def next (state : Twister) : Binary × Twister :=
  let (high, state) := state.nextWord
  let (low, state) := state.nextWord
  (.finite false ((high >>> 5).toNat * 67108864 + (low >>> 6).toNat) (-53), state)

end Twister

end Tabletop
