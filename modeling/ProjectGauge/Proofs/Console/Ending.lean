import ProjectGauge.Console.Line
import ProjectGauge.Proofs.Text.Pieces

/-!
# The end of a printed text

Emoji, tabs and line feeds may change what stands behind them on a line, but not characters that mean
nothing to the console.  So a text that ends in such characters is printed with them at its end.

* `isQuiet` says which characters mean nothing, and `printed_append` that they are printed as they are.
* `printed_ne`: texts with different ends are printed differently.
-/

namespace ProjectGauge

open Console

namespace Console

/-- A character that means nothing to the console. -/
def isQuiet (c : Char) : Bool :=
  c != ':' && c != '\t' && c != '\n' && !isUnprinted c

variable {back : List Char}

/-! ## Emoji -/

theorem nameToColon?_cons (c : Char) (rest : List Char) :
    nameToColon? (c :: rest) =
      if c = ':' then some [] else if Text.isBlank c then none else (nameToColon? rest).map (c :: ·) := by
  unfold nameToColon?
  by_cases isColon : c = ':'
  · subst isColon
    rfl
  · rw [if_neg isColon]
    cases isBlank : Text.isBlank c with
    | true => simp [isColon, isBlank]
    | false =>
      have inName : (c != ':' && !Text.isBlank c) = true := by simp [isColon, isBlank]
      simp only [List.takeWhile_cons, inName, if_true, List.length_cons, List.drop_succ_cons]
      split <;> rfl

theorem nameToColon?_plain (noColon : ':' ∉ back) : nameToColon? back = none := by
  induction back with
  | nil => rfl
  | cons c back inductionHypothesis =>
    rw [List.mem_cons, not_or] at noColon
    rw [nameToColon?_cons, if_neg (Ne.symm noColon.1), inductionHypothesis noColon.2]
    split <;> rfl

/-- A text without colons is no part of a name. -/
theorem nameToColon?_append (noColon : ':' ∉ back) (front : List Char) :
    nameToColon? (front ++ back) = nameToColon? front := by
  induction front with
  | nil => exact nameToColon?_plain noColon
  | cons c front inductionHypothesis =>
    rw [List.cons_append, nameToColon?_cons, nameToColon?_cons, inductionHypothesis]

theorem length_nameToColon?_lt {text name : List Char} (found : nameToColon? text = some name) :
    name.length < text.length := by
  induction text generalizing name with
  | nil => cases found
  | cons c rest inductionHypothesis =>
    rw [nameToColon?_cons] at found
    split at found
    · cases found
      exact Nat.zero_lt_succ _
    split at found
    · cases found
    · obtain ⟨others, behind, rfl⟩ := Option.map_eq_some_iff.mp found
      exact Nat.succ_lt_succ (inductionHypothesis behind)

theorem withEmoji_plain (noColon : ':' ∉ back) : withEmoji back = back := by
  induction back with
  | nil => rw [withEmoji]
  | cons c back inductionHypothesis =>
    rw [List.mem_cons, not_or] at noColon
    rw [withEmoji, if_neg (by simpa using Ne.symm noColon.1)]
    exact congrArg _ (inductionHypothesis noColon.2)

theorem withEmoji_append (noColon : ':' ∉ back) (front : List Char) :
    withEmoji (front ++ back) = withEmoji front ++ back := by
  induction front using withEmoji.induct with
  | case1 =>
    rw [withEmoji]
    exact withEmoji_plain noColon
  | case2 c rest name isName inductionHypothesis =>
    rw [dite_eq_ite] at isName
    have found : nameToColon? rest = some name := by
      split at isName
      · exact isName
      · cases isName
    -- The name ends in `front`, so what is dropped with it is a part of `front`.
    have shorter := length_nameToColon?_lt found
    rw [List.cons_append, withEmoji, withEmoji, nameToColon?_append noColon, isName]
    dsimp only
    rw [List.drop_append_of_le_length (by omega), inductionHypothesis, List.append_assoc]
  | case3 c rest noName inductionHypothesis =>
    rw [dite_eq_ite] at noName
    rw [List.cons_append, withEmoji, withEmoji, nameToColon?_append noColon, noName]
    dsimp only
    rw [inductionHypothesis, List.cons_append]

/-! ## Lines -/

theorem joinTabbed_append (column : Nat) (pieces : List (List Char)) (last back : List Char) :
    joinTabbed column (pieces ++ [last ++ back]) = joinTabbed column (pieces ++ [last]) ++ back := by
  induction pieces generalizing column with
  | nil => rfl
  | cons piece pieces inductionHypothesis =>
    rw [List.cons_append, List.cons_append, joinTabbed, joinTabbed]
    · rw [inductionHypothesis]
      simp only [List.append_assoc]
    all_goals simp

theorem expandTabs_append (noTab : ∀ c ∈ back, (c == '\t') = false) (front : List Char) :
    expandTabs (front ++ back) = expandTabs front ++ back := by
  obtain ⟨others, last, ofFront, ofBoth⟩ := Text.pieces_append noTab front
  unfold expandTabs
  rw [ofFront, ofBoth, joinTabbed_append]

/-- A text is printed with the quiet characters at its end at the end of the last line. -/
theorem printed_append (quiet : back.all isQuiet = true) (front : List Char) :
    ∃ shown, printed (front ++ back) = shown ++ back ++ ['\n'] := by
  have means (c : Char) (member : c ∈ back) :
      c ≠ ':' ∧ (c == '\t') = false ∧ (c == '\n') = false ∧ (!isUnprinted c) = true := by
    have isQuiet := List.all_eq_true.mp quiet c member
    simp only [Console.isQuiet, Bool.and_eq_true, bne_iff_ne] at isQuiet
    simpa [and_assoc] using isQuiet
  have noColon : ':' ∉ back := fun member => (means _ member).1 rfl
  have isVisible : visible back = back := List.filter_eq_self.mpr fun c member => (means c member).2.2.2
  obtain ⟨others, last, -, lines⟩ := Text.pieces_append (fun c member => (means c member).2.2.1)
    (visible (withEmoji front))
  refine ⟨joinLines (others.map expandTabs) ++ expandTabs last, ?_⟩
  have split : linesOf (visible (withEmoji (front ++ back))) = others ++ [last ++ back] := by
    rw [withEmoji_append noColon, visible, List.filter_append]
    exact (congrArg (fun text => linesOf (_ ++ text)) isVisible).trans lines
  unfold printed laidOut
  rw [split, List.map_append]
  simp [joinLines, expandTabs_append fun c member => (means c member).2.1]

/-- Texts with different ends of one length are printed differently. -/
theorem printed_ne {otherBack : List Char} (quiet : back.all isQuiet = true)
    (otherQuiet : otherBack.all isQuiet = true) (sameLength : back.length = otherBack.length)
    (different : back ≠ otherBack) (front otherFront : List Char) :
    printed (front ++ back) ≠ printed (otherFront ++ otherBack) := by
  intro same
  obtain ⟨shown, isShown⟩ := printed_append quiet front
  obtain ⟨otherShown, isOtherShown⟩ := printed_append otherQuiet otherFront
  rw [isShown, isOtherShown] at same
  exact different (List.append_inj' (List.append_cancel_right same) sameLength).2

end Console
end ProjectGauge
