import ProjectGauge.Text.Surrogate

/-!
# Characters and their code units

A character is no surrogate, so it is read from its own code point.  It is also read from its code units,
of which it has two if it is beyond the first 65536 characters.

* `joinPairs_toNat` reads the code points of a text, `joinPairs_units` its code units.
-/

namespace ProjectGauge.Text

theorem toNat_range (c : Char) : c.toNat < 0xD800 ∨ 0xDFFF < c.toNat ∧ c.toNat < 0x110000 := by
  rcases c.valid with low | high
  · exact .inl low
  · exact .inr high

/-- A character is read from its code point, whatever stands behind it. -/
theorem joinPairs_cons (c : Char) (points : List Nat) :
    joinPairs (c.toNat :: points) = c :: joinPairs points := by
  have range := toNat_range c
  have notHigh : isHighSurrogate c.toNat = false := by
    simp only [isHighSurrogate, Bool.and_eq_false_iff, decide_eq_false_iff_not]
    omega
  have notLow : isLowSurrogate c.toNat = false := by
    simp only [isLowSurrogate, Bool.and_eq_false_iff, decide_eq_false_iff_not]
    omega
  have same : unitChar c.toNat = c := by
    simp [unitChar, notHigh, notLow]
  cases points with
  | nil => simp only [joinPairs, same]
  | cons next rest => rw [joinPairs, notHigh, same]; rfl

theorem joinPairs_toNat (text : List Char) : joinPairs (text.map Char.toNat) = text := by
  induction text with
  | nil => rfl
  | cons c rest inductionHypothesis => rw [List.map_cons, joinPairs_cons, inductionHypothesis]

/-! ## Code units -/

/-- The code units of a character. -/
def units (c : Char) : List Nat :=
  if c.toNat < 0x10000 then [c.toNat]
  else [0xD800 + (c.toNat - 0x10000) / 0x400, 0xDC00 + (c.toNat - 0x10000) % 0x400]

theorem units_short {c : Char} (short : c.toNat < 0x10000) : units c = [c.toNat] := by
  unfold units
  rw [if_pos short]

theorem units_long {c : Char} (long : ¬ c.toNat < 0x10000) :
    units c = [0xD800 + (c.toNat - 0x10000) / 0x400, 0xDC00 + (c.toNat - 0x10000) % 0x400] := by
  unfold units
  rw [if_neg long]

theorem units_small {c : Char} : ∀ unit ∈ units c, unit < 0x10000 := by
  intro unit inside
  unfold units at inside
  split at inside
  · rw [List.mem_singleton.mp inside]
    assumption
  · have range := toNat_range c
    simp only [List.mem_cons, List.not_mem_nil, or_false] at inside
    rcases inside with same | same
    · omega
    · omega

theorem joinPairs_long {c : Char} (long : ¬ c.toNat < 0x10000) (points : List Nat) :
    joinPairs ((0xD800 + (c.toNat - 0x10000) / 0x400) :: (0xDC00 + (c.toNat - 0x10000) % 0x400) ::
      points) = c :: joinPairs points := by
  have range := toNat_range c
  have isHigh : isHighSurrogate (0xD800 + (c.toNat - 0x10000) / 0x400) = true := by
    simp only [isHighSurrogate, Bool.and_eq_true, decide_eq_true_eq]
    omega
  have isLow : isLowSurrogate (0xDC00 + (c.toNat - 0x10000) % 0x400) = true := by
    simp only [isLowSurrogate, Bool.and_eq_true, decide_eq_true_eq]
    omega
  -- The two halves are put together to the offset that they have been cut from.
  have joined : joinSurrogates (0xD800 + (c.toNat - 0x10000) / 0x400)
      (0xDC00 + (c.toNat - 0x10000) % 0x400) = c := by
    have whole : 0x10000 + (0xD800 + (c.toNat - 0x10000) / 0x400 - 0xD800) * 0x400 +
        (0xDC00 + (c.toNat - 0x10000) % 0x400 - 0xDC00) = c.toNat := by omega
    unfold joinSurrogates
    rw [whole, Char.ofNat_toNat]
  rw [joinPairs, isHigh, isLow, joined]
  rfl

theorem joinPairs_units (text : List Char) : joinPairs (text.flatMap units) = text := by
  induction text with
  | nil => rfl
  | cons c rest inductionHypothesis =>
    rw [List.flatMap_cons]
    unfold units
    split
    · rw [List.singleton_append, joinPairs_cons]
      exact congrArg (c :: ·) inductionHypothesis
    · rename_i long
      rw [List.cons_append, List.singleton_append, joinPairs_long long]
      exact congrArg (c :: ·) inductionHypothesis

end ProjectGauge.Text
