import ProjectGauge.Text.Utf8
import ProjectGauge.Text.Newline

/-!
# What is read from bytes

Reading a text from bytes makes no characters up: there are at most as many characters as bytes, and
unifying line ends takes some more of them away.  A text without carriage returns keeps its line ends.

* `length_of_decode` and `length_decodeLossy_le` bound the characters by the bytes.
* `unifyNewlines_noReturn` says that a text without carriage returns is left as it is, such as a plain one.
-/

namespace ProjectGauge.Text

/-! ## Lengths -/

theorem length_unifyNewlinesFrom_le (read text : List Char) :
    (unifyNewlinesFrom read text).length ≤ read.length + text.length := by
  fun_induction unifyNewlinesFrom read text with
  | case1 read => simp
  | case2 read c rest isReturn beforeFeed inductionHypothesis =>
    -- The carriage return in front of a line feed is the character that goes away.
    rw [List.length_cons]
    omega
  | case3 read c rest isReturn alone inductionHypothesis =>
    rw [List.length_cons] at *
    omega
  | case4 read c rest notReturn inductionHypothesis =>
    rw [List.length_cons] at *
    omega

theorem length_unifyNewlines_le (text : List Char) : (unifyNewlines text).length ≤ text.length := by
  simpa [unifyNewlines] using length_unifyNewlinesFrom_le [] text

namespace Utf8

theorem length_decodeLossyFrom_le (pending : Nat) (read : List Char) (bytes : List UInt8) :
    (decodeLossyFrom pending read bytes).length ≤ read.length + bytes.length := by
  fun_induction decodeLossyFrom pending read bytes with
  | case1 pending read => simp
  | case2 read byte rest pending inductionHypothesis =>
    rw [List.length_cons]
    omega
  | case3 read byte rest c length isFront inductionHypothesis =>
    rw [List.length_cons] at *
    omega
  | case4 read byte rest fault length isFront inductionHypothesis =>
    rw [List.length_cons] at *
    omega

theorem length_decodeLossy_le (bytes : List UInt8) : (decodeLossy bytes).length ≤ bytes.length := by
  simpa [decodeLossy] using length_decodeLossyFrom_le 0 [] bytes

theorem length_of_decodeFrom (pending position : Nat) (read : List Char) (bytes : List UInt8)
    (text : List Char) (decoded : decodeFrom pending position read bytes = .ok text) :
    text.length ≤ read.length + bytes.length := by
  fun_induction decodeFrom pending position read bytes with
  | case1 pending position read =>
    cases decoded
    simp
  | case2 position read byte rest pending inductionHypothesis =>
    have shorter := inductionHypothesis decoded
    rw [List.length_cons]
    omega
  | case3 position read byte rest c length isFront inductionHypothesis =>
    have shorter := inductionHypothesis decoded
    rw [List.length_cons] at *
    omega
  | case4 position read byte rest fault length isFront => cases decoded

theorem length_of_decode {bytes : List UInt8} {text : List Char} (decoded : decode bytes = .ok text) :
    text.length ≤ bytes.length := by
  simpa using length_of_decodeFrom 0 0 [] bytes text decoded

end Utf8

/-! ## Plain texts -/

/-- All characters of a text are in ASCII, and none of them is a carriage return. -/
def IsPlain (text : List Char) : Prop :=
  ∀ c ∈ text, c.toNat < 0x80 ∧ c ≠ '\r'

instance (text : List Char) : Decidable (IsPlain text) :=
  List.decidableBAll _ text

theorem IsPlain.append {front back : List Char} (plainFront : IsPlain front) (plainBack : IsPlain back) :
    IsPlain (front ++ back) := by
  intro c inside
  rcases List.mem_append.mp inside with inFront | inBack
  · exact plainFront c inFront
  · exact plainBack c inBack

theorem IsPlain.cons {c : Char} {text : List Char} (plain : c.toNat < 0x80 ∧ c ≠ '\r')
    (others : IsPlain text) : IsPlain (c :: text) := by
  intro d inside
  rcases List.mem_cons.mp inside with rfl | inText
  · exact plain
  · exact others d inText

theorem unifyNewlinesFrom_noReturn (read : List Char) {text : List Char} (noReturn : '\r' ∉ text) :
    unifyNewlinesFrom read text = read.reverse ++ text := by
  induction text generalizing read with
  | nil => simp [unifyNewlinesFrom]
  | cons c rest inductionHypothesis =>
    rw [List.mem_cons, not_or] at noReturn
    have others := inductionHypothesis (c :: read) noReturn.2
    rw [unifyNewlinesFrom, if_neg (by simpa using Ne.symm noReturn.1), others]
    simp

/-- A text without carriage returns has the line ends that it has. -/
theorem unifyNewlines_noReturn {text : List Char} (noReturn : '\r' ∉ text) : unifyNewlines text = text :=
  unifyNewlinesFrom_noReturn [] noReturn

theorem unifyNewlines_plain {text : List Char} (plain : IsPlain text) : unifyNewlines text = text :=
  unifyNewlines_noReturn fun isReturn => (plain _ isReturn).2 rfl

end ProjectGauge.Text
