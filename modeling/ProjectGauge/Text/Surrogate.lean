/-!
# Surrogates

A character may be written as two code units, a leading surrogate and a trailing one behind it. Texts
are of characters here, and a surrogate without its partner is none: it is read as the replacement
character, whichever it is, so that texts which differ in such surrogates alone become the same.

* `joinPairs` gives the characters of code points.
-/

namespace ProjectGauge.Text

/-- A code unit in the range of leading surrogates. -/
def isHighSurrogate (unit : Nat) : Bool :=
  0xD800 ≤ unit && unit < 0xDC00

/-- A code unit in the range of trailing surrogates. -/
def isLowSurrogate (unit : Nat) : Bool :=
  0xDC00 ≤ unit && unit < 0xE000

def joinSurrogates (high low : Nat) : Char :=
  Char.ofNat (0x10000 + (high - 0xD800) * 0x400 + (low - 0xDC00))

/-- The character of a code unit, which has none if it is a surrogate. -/
def unitChar (unit : Nat) : Char :=
  if isHighSurrogate unit || isLowSurrogate unit then '\uFFFD' else Char.ofNat unit

/-- The characters of code points: a leading surrogate joins with a trailing one behind it. -/
def joinPairs : List Nat → List Char
  | [] => []
  | [point] => [unitChar point]
  | high :: low :: rest =>
    if isHighSurrogate high && isLowSurrogate low then joinSurrogates high low :: joinPairs rest
    else unitChar high :: joinPairs (low :: rest)

end ProjectGauge.Text
