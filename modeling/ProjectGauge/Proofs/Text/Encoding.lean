import ProjectGauge.Text.Utf8
import Mathlib.Data.List.TakeWhile

/-!
# Reading what has been encoded

The bytes of a text are the only ones that are read as this text.  The bytes of a character are described
once, and both the reader and the writer are compared with the description.

* `IsSequence` describes the bytes of a code point, one rule for each number of bytes.
* `isSequence_of_front`, `IsSequence.front`, `isSequence_encodeChar` and `IsSequence.encodeChar` say that the
  reader and the writer follow it.
* `decode_eq_ok_iff` puts both together.
-/

namespace ProjectGauge.Text.Utf8

/-! ## The bytes of a character -/

/-- The bytes of a code point. -/
inductive IsSequence : Nat → List UInt8 → Prop where
  | one {a : UInt8} (ascii : a.toNat < 0x80) : IsSequence a.toNat [a]
  | two {a b : UInt8} (starts : 0xc2 ≤ a.toNat ∧ a.toNat ≤ 0xdf) (goesOn : isContinuation b = true) :
      IsSequence (addBits (a.toNat - 0xc0) b) [a, b]
  | three {a b c : UInt8} (starts : 0xe0 ≤ a.toNat ∧ a.toNat ≤ 0xef) (fits : continues a b = true)
      (goesOn : isContinuation c = true) :
      IsSequence (addBits (addBits (a.toNat - 0xe0) b) c) [a, b, c]
  | four {a b c d : UInt8} (starts : 0xf0 ≤ a.toNat ∧ a.toNat ≤ 0xf4) (fits : continues a b = true)
      (goesOn : isContinuation c = true) (ends : isContinuation d = true) :
      IsSequence (addBits (addBits (addBits (a.toNat - 0xf0) b) c) d) [a, b, c, d]

theorem isContinuation_iff (b : UInt8) :
    isContinuation b = true ↔ 0x80 ≤ b.toNat ∧ b.toNat ≤ 0xbf := by
  unfold isContinuation
  rw [Bool.and_eq_true, decide_eq_true_eq, decide_eq_true_eq, UInt8.le_iff_toNat_le, UInt8.le_iff_toNat_le]
  rfl

theorem continues_iff (a b : UInt8) :
    continues a b = true ↔ (0x80 ≤ b.toNat ∧ b.toNat ≤ 0xbf) ∧ (a.toNat = 0xe0 → 0xa0 ≤ b.toNat) ∧
      (a.toNat = 0xed → b.toNat < 0xa0) ∧ (a.toNat = 0xf0 → 0x90 ≤ b.toNat) ∧
      (a.toNat = 0xf4 → b.toNat < 0x90) := by
  unfold continues
  simp only [Bool.and_eq_true, Bool.or_eq_true, bne_iff_ne, ne_eq, decide_eq_true_eq, isContinuation_iff,
    UInt8.le_iff_toNat_le, UInt8.lt_iff_toNat_lt, ← UInt8.toNat_inj, UInt8.reduceToNat]
  omega

theorem lengthOf?_eq_some_iff (first : UInt8) (length : Nat) :
    lengthOf? first = some length ↔ (length = 1 ∧ first.toNat < 0x80) ∨
      (length = 2 ∧ 0xc2 ≤ first.toNat ∧ first.toNat ≤ 0xdf) ∨
      (length = 3 ∧ 0xe0 ≤ first.toNat ∧ first.toNat ≤ 0xef) ∨
      (length = 4 ∧ 0xf0 ≤ first.toNat ∧ first.toNat ≤ 0xf4) := by
  unfold lengthOf?
  simp only [Bool.and_eq_true, decide_eq_true_eq, UInt8.le_iff_toNat_le, UInt8.lt_iff_toNat_lt,
    UInt8.reduceToNat]
  split
  · simp only [Option.some.injEq]
    omega
  · split
    · simp only [Option.some.injEq]
      omega
    · split
      · simp only [Option.some.injEq]
        omega
      · split
        · simp only [Option.some.injEq]
          omega
        · simp only [reduceCtorEq, false_iff]
          omega

/-! ## The reader -/

/-- A long character goes on with as many bytes as its first one asks for. -/
theorem owed_of_longFront {length taken : Nat} {first second : UInt8} {rest : List UInt8} {c : Char}
    (isFront : longFront length first second rest = .char c taken) :
    ∃ owed more, rest = owed ++ more ∧ owed.length + 2 = length ∧ (∀ b ∈ owed, isContinuation b = true) ∧
      c = Char.ofNat (owed.foldl addBits (addBits (leadingBits length first) second)) ∧ taken = length := by
  unfold longFront at isFront
  dsimp only at isFront
  split at isFront
  · rename_i whole
    cases isFront
    have short := List.length_take_le (length - 2) rest
    have isPrefix := List.takeWhile_prefix isContinuation (l := rest.take (length - 2))
    have all := isPrefix.eq_of_length_le (by omega)
    rw [all] at whole ⊢
    refine ⟨_, _, (List.take_append_drop (length - 2) rest).symm, whole, fun b inside => ?_, rfl, rfl⟩
    rw [← all] at inside
    exact List.mem_takeWhile_imp inside
  · split at isFront <;> cases isFront

/-- A character of several bytes has a second byte that fits, and as many further ones as are left. -/
theorem owed_of_front {first : UInt8} {rest : List UInt8} {c : Char} {length : Nat} (more : Nat)
    (isLength : lengthOf? first = some (more + 2)) (isFront : front first rest = .char c length) :
    ∃ second owed behind, rest = second :: (owed ++ behind) ∧ continues first second = true ∧
      owed.length = more ∧ (∀ b ∈ owed, isContinuation b = true) ∧
      c = Char.ofNat (owed.foldl addBits (addBits (leadingBits (more + 2) first) second)) ∧
      length = more + 2 := by
  unfold front at isFront
  rw [isLength] at isFront
  cases rest with
  | nil => cases isFront
  | cons second rest =>
    change (if continues first second then longFront (more + 2) first second rest
      else .fault .continuation 1) = _ at isFront
    split at isFront
    · rename_i fits
      obtain ⟨owed, behind, rfl, count, goesOn, isChar, isLength⟩ := owed_of_longFront isFront
      exact ⟨second, owed, behind, rfl, fits, by omega, goesOn, isChar, isLength⟩
    · cases isFront

/-- What the reader takes for a character is the sequence of a code point. -/
theorem isSequence_of_front {first : UInt8} {rest : List UInt8} {c : Char} {length : Nat}
    (isFront : front first rest = .char c length) :
    ∃ code bytes more, first :: rest = bytes ++ more ∧ IsSequence code bytes ∧ c = Char.ofNat code ∧
      length = bytes.length := by
  cases isLength : lengthOf? first with
  | none =>
    unfold front at isFront
    rw [isLength] at isFront
    cases isFront
  | some total =>
    rcases (lengthOf?_eq_some_iff first total).mp isLength with
      ⟨rfl, ascii⟩ | ⟨rfl, starts⟩ | ⟨rfl, starts⟩ | ⟨rfl, starts⟩
    · unfold front at isFront
      rw [isLength] at isFront
      cases isFront
      exact ⟨_, [first], rest, rfl, .one ascii, rfl, rfl⟩
    · obtain ⟨b, owed, behind, rfl, fits, count, goesOn, rfl, rfl⟩ := owed_of_front 0 isLength isFront
      match owed, count with
      | [], _ =>
        have goesOn := (isContinuation_iff b).mpr ((continues_iff first b).mp fits).1
        exact ⟨_, [first, b], behind, rfl, .two starts goesOn, rfl, rfl⟩
    · obtain ⟨b, owed, behind, rfl, fits, count, goesOn, rfl, rfl⟩ := owed_of_front 1 isLength isFront
      match owed, count with
      | [c], _ =>
        exact ⟨_, [first, b, c], behind, rfl, .three starts fits (goesOn c (by simp)), rfl, rfl⟩
    · obtain ⟨b, owed, behind, rfl, fits, count, goesOn, rfl, rfl⟩ := owed_of_front 2 isLength isFront
      match owed, count with
      | [c, d], _ =>
        exact ⟨_, [first, b, c, d], behind, rfl,
          .four starts fits (goesOn c (by simp)) (goesOn d (by simp)), rfl, rfl⟩

/-- The bytes of a code point start with a character for the reader. -/
theorem IsSequence.front {code : Nat} {bytes : List UInt8} (isSequence : IsSequence code bytes)
    (more : List UInt8) :
    ∃ first rest, bytes = first :: rest ∧
      Utf8.front first (rest ++ more) = .char (Char.ofNat code) (rest.length + 1) := by
  cases isSequence with
  | @one a ascii =>
    have isLength := (lengthOf?_eq_some_iff a 1).mpr (by omega)
    refine ⟨_, _, rfl, ?_⟩
    unfold Utf8.front
    rw [isLength]
    rfl
  | @two a b starts goesOn =>
    have isLength := (lengthOf?_eq_some_iff a 2).mpr (by omega)
    have fits : continues a b = true :=
      (continues_iff a b).mpr ⟨(isContinuation_iff b).mp goesOn, by omega, by omega, by omega, by omega⟩
    refine ⟨_, _, rfl, ?_⟩
    unfold Utf8.front
    rw [isLength]
    simp [fits, longFront, leadingBits]
  | @three a b c starts fits goesOn =>
    have isLength := (lengthOf?_eq_some_iff a 3).mpr (by omega)
    refine ⟨_, _, rfl, ?_⟩
    unfold Utf8.front
    rw [isLength]
    simp [fits, goesOn, longFront, leadingBits]
  | @four a b c d starts fits goesOn ends =>
    have isLength := (lengthOf?_eq_some_iff a 4).mpr (by omega)
    refine ⟨_, _, rfl, ?_⟩
    unfold Utf8.front
    rw [isLength]
    simp [fits, goesOn, ends, longFront, leadingBits]

/-! ## The writer -/

theorem toNat_continuationByte (bits : Nat) : (continuationByte bits).toNat = 0x80 + bits % 64 := by
  unfold continuationByte
  rw [UInt8.toNat_ofNat']
  omega

/-- A code point with a sequence is that of a character. -/
theorem IsSequence.toNat_ofNat {code : Nat} {bytes : List UInt8} (isSequence : IsSequence code bytes) :
    (Char.ofNat code).toNat = code := by
  have valid : code.isValidChar := by
    unfold Nat.isValidChar
    cases isSequence with
    | one ascii => omega
    | @two a b starts goesOn =>
      rw [isContinuation_iff] at goesOn
      unfold addBits
      omega
    | @three a b c starts fits goesOn =>
      rw [continues_iff] at fits
      rw [isContinuation_iff] at goesOn
      unfold addBits
      omega
    | @four a b c d starts fits goesOn ends =>
      rw [continues_iff] at fits
      rw [isContinuation_iff] at goesOn ends
      unfold addBits
      omega
  rw [Char.ofNat, dif_pos valid]
  rfl

/-- The sequence of a code point is what the writer makes of its character. -/
theorem IsSequence.encodeChar {code : Nat} {bytes : List UInt8} (isSequence : IsSequence code bytes) :
    Utf8.encodeChar (Char.ofNat code) = bytes := by
  have isCode := isSequence.toNat_ofNat
  unfold Utf8.encodeChar
  dsimp only
  rw [isCode]
  cases isSequence with
  | one ascii =>
    rw [if_pos ascii, UInt8.ofNat_toNat]
  | @two a b starts goesOn =>
    rw [isContinuation_iff] at goesOn
    unfold addBits
    rw [if_neg (by omega), if_pos (by omega)]
    simp only [List.cons.injEq, ← UInt8.toNat_inj, toNat_continuationByte, UInt8.toNat_ofNat', and_true]
    omega
  | @three a b c starts fits goesOn =>
    rw [continues_iff] at fits
    rw [isContinuation_iff] at goesOn
    unfold addBits
    rw [if_neg (by omega), if_neg (by omega), if_pos (by omega)]
    simp only [List.cons.injEq, ← UInt8.toNat_inj, toNat_continuationByte, UInt8.toNat_ofNat', and_true]
    omega
  | @four a b c d starts fits goesOn ends =>
    rw [continues_iff] at fits
    rw [isContinuation_iff] at goesOn ends
    unfold addBits
    rw [if_neg (by omega), if_neg (by omega), if_neg (by omega)]
    simp only [List.cons.injEq, ← UInt8.toNat_inj, toNat_continuationByte, UInt8.toNat_ofNat', and_true]
    omega

theorem addBits_continuationByte (code : Nat) : addBits (code / 64) (continuationByte code) = code := by
  unfold addBits
  rw [toNat_continuationByte]
  omega

/-- What the writer makes of a character is the sequence of its code point. -/
theorem isSequence_encodeChar (c : Char) : IsSequence c.toNat (Utf8.encodeChar c) := by
  -- Each case of the writer has the first bytes of one rule; that no character is a surrogate matters for
  -- three bytes, and that none is above the last one for four.
  have valid : c.toNat < 0xd800 ∨ 0xdfff < c.toNat ∧ c.toNat < 0x110000 := c.valid
  unfold Utf8.encodeChar
  dsimp only
  generalize c.toNat = code at valid
  have isByte {n : Nat} (small : n < 256) : (UInt8.ofNat n).toNat = n := by
    rw [UInt8.toNat_ofNat']
    omega
  split
  · have sequence := IsSequence.one (a := UInt8.ofNat code) (by rw [isByte] <;> omega)
    rwa [isByte (by omega)] at sequence
  · split
    · have start := isByte (n := 0xc0 + code / 64) (by omega)
      have sequence := IsSequence.two (a := UInt8.ofNat (0xc0 + code / 64)) (b := continuationByte code)
        (by rw [start]; omega) (by rw [isContinuation_iff, toNat_continuationByte]; omega)
      have whole : addBits (0xc0 + code / 64 - 0xc0) (continuationByte code) = code := by
        rw [Nat.add_sub_cancel_left, addBits_continuationByte]
      rwa [start, whole] at sequence
    · split
      · have start := isByte (n := 0xe0 + code / 4096) (by omega)
        have sequence := IsSequence.three (a := UInt8.ofNat (0xe0 + code / 4096))
          (b := continuationByte (code / 64)) (c := continuationByte code) (by rw [start]; omega)
          (by rw [continues_iff, start, toNat_continuationByte]; omega)
          (by rw [isContinuation_iff, toNat_continuationByte]; omega)
        have whole : addBits (addBits (0xe0 + code / 4096 - 0xe0) (continuationByte (code / 64)))
            (continuationByte code) = code := by
          have high : code / 4096 = code / 64 / 64 := by rw [Nat.div_div_eq_div_mul]
          rw [Nat.add_sub_cancel_left, high, addBits_continuationByte, addBits_continuationByte]
        rwa [start, whole] at sequence
      · have start := isByte (n := 0xf0 + code / 262144) (by omega)
        have sequence := IsSequence.four (a := UInt8.ofNat (0xf0 + code / 262144))
          (b := continuationByte (code / 4096)) (c := continuationByte (code / 64))
          (d := continuationByte code) (by rw [start]; omega)
          (by rw [continues_iff, start, toNat_continuationByte]; omega)
          (by rw [isContinuation_iff, toNat_continuationByte]; omega)
          (by rw [isContinuation_iff, toNat_continuationByte]; omega)
        have whole : addBits (addBits (addBits (0xf0 + code / 262144 - 0xf0)
            (continuationByte (code / 4096))) (continuationByte (code / 64))) (continuationByte code) =
              code := by
          have middle : code / 4096 = code / 64 / 64 := by rw [Nat.div_div_eq_div_mul]
          have high : code / 262144 = code / 64 / 64 / 64 := by
            rw [Nat.div_div_eq_div_mul, Nat.div_div_eq_div_mul]
          rw [Nat.add_sub_cancel_left, high, middle, addBits_continuationByte, addBits_continuationByte,
            addBits_continuationByte]
        rwa [start, whole] at sequence

/-! ## Whole texts -/

/-- The further bytes of a character are passed over. -/
theorem decodeFrom_append (bytes rest : List UInt8) (position : Nat) (read : List Char) :
    decodeFrom bytes.length position read (bytes ++ rest) =
      decodeFrom 0 (position + bytes.length) read rest := by
  induction bytes generalizing position with
  | nil => rfl
  | cons byte bytes inductionHypothesis =>
    rw [List.length_cons, List.cons_append, decodeFrom, inductionHypothesis, Nat.add_right_comm,
      Nat.add_assoc]

theorem decodeFrom_char {code : Nat} {bytes : List UInt8} (isSequence : IsSequence code bytes)
    (position : Nat) (read : List Char) (rest : List UInt8) :
    decodeFrom 0 position read (bytes ++ rest) =
      decodeFrom 0 (position + bytes.length) (Char.ofNat code :: read) rest := by
  obtain ⟨first, more, rfl, isFront⟩ := isSequence.front rest
  rw [List.cons_append, decodeFrom, isFront]
  dsimp only
  rw [Nat.add_sub_cancel, decodeFrom_append, List.length_cons, Nat.add_right_comm, Nat.add_assoc]

theorem decodeFrom_encode (text : List Char) (position : Nat) (read : List Char) :
    decodeFrom 0 position read (encode text) = .ok (read.reverse ++ text) := by
  induction text generalizing position read with
  | nil => simp [encode, decodeFrom]
  | cons c rest inductionHypothesis =>
    have bytes : encode (c :: rest) = Utf8.encodeChar c ++ encode rest := List.flatMap_cons
    rw [bytes, decodeFrom_char (isSequence_encodeChar c), inductionHypothesis, Char.ofNat_toNat]
    simp

theorem encode_of_decodeFrom (bytes : List UInt8) (position : Nat) (read text : List Char)
    (decoded : decodeFrom 0 position read bytes = .ok text) :
    ∃ rest, text = read.reverse ++ rest ∧ encode rest = bytes := by
  -- A character takes away several bytes at once, so the induction is on their number.
  induction isCount : bytes.length using Nat.strongRecOn generalizing bytes position read with
  | _ count inductionHypothesis =>
    cases bytes with
    | nil =>
      cases decoded
      exact ⟨[], by simp, rfl⟩
    | cons first bytes =>
      cases isFront : front first bytes with
      | fault fault length =>
        rw [decodeFrom, isFront] at decoded
        cases decoded
      | char c length =>
        obtain ⟨code, sequence, more, split, isSequence, rfl, -⟩ := isSequence_of_front isFront
        rw [split, decodeFrom_char isSequence] at decoded
        have shorter : more.length < count := by
          obtain ⟨_, _, rfl, -⟩ := isSequence.front []
          rw [← isCount, split, List.length_append, List.length_cons]
          omega
        obtain ⟨rest, rfl, rfl⟩ := inductionHypothesis _ shorter more _ _ decoded rfl
        refine ⟨Char.ofNat code :: rest, by simp, ?_⟩
        rw [split, ← isSequence.encodeChar]
        exact List.flatMap_cons

/-- Bytes are read as a text if and only if the text is written as these bytes. -/
theorem decode_eq_ok_iff {bytes : List UInt8} {text : List Char} :
    decode bytes = .ok text ↔ encode text = bytes := by
  constructor
  · intro decoded
    obtain ⟨rest, rfl, encoded⟩ := encode_of_decodeFrom bytes 0 [] text decoded
    exact encoded
  · rintro rfl
    exact decodeFrom_encode text 0 []

end ProjectGauge.Text.Utf8
