/-!
# Pieces of a text

A text falls into pieces between the characters that separate them. There is one piece more than
separators, and a piece may be empty.
-/

namespace ProjectGauge.Text

/-- The pieces of a text between the characters that separate them. -/
def pieces (separates : Char → Bool) : List Char → List (List Char)
  | [] => [[]]
  | c :: rest =>
    if separates c then [] :: pieces separates rest
    else
      match pieces separates rest with
      | [] => [[c]]
      | piece :: others => (c :: piece) :: others

/-- Every text has a piece. -/
theorem pieces_ne_nil (separates : Char → Bool) (text : List Char) : pieces separates text ≠ [] := by
  cases text with
  | nil => simp [pieces]
  | cons c rest =>
    simp only [pieces]
    split
    · simp
    · split <;> simp

end ProjectGauge.Text
