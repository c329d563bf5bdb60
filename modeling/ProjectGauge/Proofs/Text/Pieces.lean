import ProjectGauge.Text.Pieces
import Mathlib.Data.List.Basic

/-!
# The pieces of a text

A separator ends a piece wherever it stands, and between separators a text is one piece.

* `pieces_separated` splits a text at one of its separators, `pieces_append` in front of an end without any.
* `plain_of_mem_pieces`: no piece has a separator in it.
-/

namespace ProjectGauge.Text

variable {separates : Char → Bool} {text back piece : List Char}

theorem pieces_plain (plain : ∀ c ∈ text, separates c = false) : pieces separates text = [text] := by
  induction text with
  | nil => rfl
  | cons c text inductionHypothesis =>
    rw [pieces, plain c List.mem_cons_self,
      inductionHypothesis fun other member => plain other (List.mem_cons_of_mem _ member)]
    rfl

/-- A text falls apart at a separator. -/
theorem pieces_separated {c : Char} (isSeparator : separates c = true) (front back : List Char) :
    pieces separates (front ++ c :: back) = pieces separates front ++ pieces separates back := by
  induction front with
  | nil => exact if_pos isSeparator
  | cons other front inductionHypothesis =>
    rw [List.cons_append, pieces, pieces, inductionHypothesis]
    split
    · rfl
    · -- A text has a first piece, to which the character is added.
      obtain ⟨first, others, parts⟩ := List.exists_cons_of_ne_nil (pieces_ne_nil separates front)
      rw [parts]
      rfl

/-- A text without a separator goes to the last piece of the one in front of it. -/
theorem pieces_append (plain : ∀ c ∈ back, separates c = false) (front : List Char) :
    ∃ others last, pieces separates front = others ++ [last] ∧
      pieces separates (front ++ back) = others ++ [last ++ back] := by
  induction front with
  | nil => exact ⟨[], [], rfl, pieces_plain plain⟩
  | cons c front inductionHypothesis =>
    obtain ⟨others, last, ofFront, ofBoth⟩ := inductionHypothesis
    rw [List.cons_append, pieces, pieces, ofFront, ofBoth]
    split
    · exact ⟨[] :: others, last, rfl, rfl⟩
    · cases others with
      | nil => exact ⟨[], c :: last, rfl, rfl⟩
      | cons first others => exact ⟨(c :: first) :: others, last, rfl, rfl⟩

theorem plain_of_mem_pieces (member : piece ∈ pieces separates text) : ∀ c ∈ piece, separates c = false := by
  induction text generalizing piece with
  | nil =>
    rw [pieces, List.mem_singleton] at member
    simp [member]
  | cons c text inductionHypothesis =>
    obtain ⟨first, others, parts⟩ := List.exists_cons_of_ne_nil (pieces_ne_nil separates text)
    rw [parts] at inductionHypothesis
    simp only [pieces, parts] at member
    split at member
    · rcases List.mem_cons.mp member with rfl | member
      · simp
      · exact inductionHypothesis member
    · rename_i notSeparator
      rcases List.mem_cons.mp member with rfl | member
      · have plain := inductionHypothesis List.mem_cons_self
        exact List.forall_mem_cons.mpr ⟨by simpa using notSeparator, plain⟩
      · exact inductionHypothesis (List.mem_cons_of_mem _ member)

end ProjectGauge.Text
