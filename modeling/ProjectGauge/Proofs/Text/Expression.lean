import ProjectGauge.Proofs.Text.Pattern
import ProjectGauge.Text.Blank

/-!
# Written patterns

A pattern is written as an expression, in which some characters have a meaning of their own.  A backslash in
front of them takes it away, so that any text can stand for itself.

* `escape` writes a text that stands for itself.
* `read` reads an expression of characters, classes, groups that may be left out, and repetitions.
* `tokens_escape` and `parse_literals`: an escaped text is read as its characters, whatever these are.
* `reads_literals`: characters one after the other read what they are.
-/

namespace ProjectGauge.Text.Expression

/-! ## Expressions -/

/-- The characters with a meaning of their own. -/
def operators : List Char :=
  ".\\[\x7b()*+?^$|".toList

/-- The characters that get a backslash. -/
def escaped : List Char :=
  "()[]\x7b\x7d?*+-|^$\\.&~# \t\n\r\x0b\x0c".toList

def escape (text : List Char) : List Char :=
  text.flatMap fun c => if c ∈ escaped then ['\\', c] else [c]

/-- A part of an expression. -/
inductive Token where
  | literal (c : Char)
  | one (member : Char → Bool)
  | opening
  | closing
  | repeated
  | optional

/-- A repetition stands in front of some text. -/
def startsRepetition : List Char → Bool
  | c :: _ => c == '+' || c == '?' || c == '*' || c == '\x7b'
  | [] => false

/-- The tokens of an expression, of which a class may have been read in part: whether it is what is not in a
list, and the list.  There are none where the expression has other parts than these. -/
def tokens : Option (Bool × List Char) → List Char → Option (List Token)
  | none, [] => some []
  | some _, [] => none
  | some (without, members), c :: rest =>
    -- A bracket that comes first would be a member, and so might be what stands around a dash.
    if c = ']' ∧ members ≠ [] then
      (tokens none rest).map (.one (fun d => members.contains d != without) :: ·)
    else if c ∈ "[]\\-^".toList then none
    else tokens (some (without, members ++ [c])) rest
  | none, c :: rest =>
    if c = '\\' then
      match rest with
      | [] => none
      | d :: rest =>
        if d = 's' then (tokens none rest).map (.one isBlank :: ·)
        else if d.isAlphanum then none
        else (tokens none rest).map (.literal d :: ·)
    else if c = '[' then
      match rest with
      | '^' :: rest => tokens (some (true, [])) rest
      | rest => tokens (some (false, [])) rest
    else if c = '(' then
      match rest with
      | '?' :: ':' :: rest => (tokens none rest).map (.opening :: ·)
      | _ => none
    else if c = ')' then (tokens none rest).map (.closing :: ·)
    else if c = '+' then
      if startsRepetition rest then none else (tokens none rest).map (.repeated :: ·)
    else if c = '?' then
      if startsRepetition rest then none else (tokens none rest).map (.optional :: ·)
    else if c ∈ operators then none
    else (tokens none rest).map (.literal c :: ·)

/-- Patterns one behind the other. -/
def sequence : List Pattern → Pattern
  | [] => .literal []
  | part :: others => .seq part (sequence others)

/-- The characters of a text, each as a pattern of its own. -/
def characters (text : List Char) : List Pattern :=
  text.map fun c => .literal [c]

/-- The pattern of tokens, behind the parts that have been read: those of the groups around, and those of the
group itself, the last one first. -/
def parse : List (List Pattern) → List Pattern → List Token → Option Pattern
  | [], parts, [] => some (sequence parts.reverse)
  | _ :: _, _, [] => none
  | around, parts, .literal c :: rest => parse around (.literal [c] :: parts) rest
  | around, parts, .one member :: rest => parse around (.one member :: parts) rest
  | around, parts, .opening :: rest => parse (parts :: around) [] rest
  | group :: around, parts, .closing :: rest => parse around (sequence parts.reverse :: group) rest
  | [], _, .closing :: _ => none
  | around, .one member :: parts, .repeated :: rest => parse around (.some member :: parts) rest
  | _, _, .repeated :: _ => none
  | around, part :: parts, .optional :: rest => parse around (.optional part :: parts) rest
  | _, [], .optional :: _ => none

def read (text : List Char) : Option Pattern :=
  (tokens none text).bind (parse [] [])

/-! ## Texts that stand for themselves -/

variable {c : Char} {rest : List Char}

theorem tokens_plain (plain : c ∉ operators) :
    tokens none (c :: rest) = (tokens none rest).map (.literal c :: ·) := by
  have other {d : Char} (isOperator : d ∈ operators) : c ≠ d := fun same => plain (same ▸ isOperator)
  rw [tokens.eq_def]
  dsimp only
  rw [if_neg (other (by decide)), if_neg (other (by decide)), if_neg (other (by decide)),
    if_neg (other (by decide)), if_neg (other (by decide)), if_neg (other (by decide)), if_neg plain]

theorem tokens_backslash (noLetter : c.isAlphanum = false) :
    tokens none ('\\' :: c :: rest) = (tokens none rest).map (.literal c :: ·) := by
  have isOther : c ≠ 's' := by
    rintro rfl
    cases noLetter
  rw [tokens.eq_def]
  dsimp only
  rw [if_pos rfl]
  rw [if_neg isOther, if_neg (by simp [noLetter])]

theorem tokens_repeated (noRepetition : startsRepetition rest = false) :
    tokens none ('+' :: rest) = (tokens none rest).map (.repeated :: ·) := by
  rw [tokens.eq_def]
  simp [noRepetition]

/-- Whatever characters a text has, escaped it is read as these. -/
theorem tokens_escape (text rest : List Char) :
    tokens none (escape text ++ rest) = (tokens none rest).map (text.map .literal ++ ·) := by
  have noLetters : (escaped.all fun c => !c.isAlphanum) = true := rfl
  have allEscaped : (operators.all fun c => escaped.contains c) = true := rfl
  rw [List.all_eq_true] at noLetters allEscaped
  -- A backslash only ever stands in front of what is no letter, so it makes no class of it.
  induction text with
  | nil => simp [escape]
  | cons c text inductionHypothesis =>
    have first : tokens none (escape (c :: text) ++ rest) =
        (tokens none (escape text ++ rest)).map (.literal c :: ·) := by
      by_cases isEscaped : c ∈ escaped
      · have written : escape (c :: text) ++ rest = '\\' :: c :: (escape text ++ rest) := by
          simp [escape, isEscaped]
        rw [written, tokens_backslash (by simpa using noLetters c isEscaped)]
      · have written : escape (c :: text) ++ rest = c :: (escape text ++ rest) := by
          simp [escape, isEscaped]
        rw [written, tokens_plain fun isOperator => isEscaped (by simpa using allEscaped c isOperator)]
    rw [first, inductionHypothesis, Option.map_map]
    rfl

example : escape "@a/b.c".toList = "@a/b\\.c".toList := by decide

/-- Characters are read as parts of their own. -/
theorem parse_literals (around : List (List Pattern)) (text : List Char) (parts : List Pattern)
    (rest : List Token) :
    parse around parts (text.map .literal ++ rest) =
      parse around ((characters text).reverse ++ parts) rest := by
  induction text generalizing parts with
  | nil => rfl
  | cons c text inductionHypothesis =>
    rw [List.map_cons, List.cons_append, parse, inductionHypothesis]
    simp [characters]

/-! ## What is read -/

/-- Characters one behind the other read what they are. -/
theorem reads_literals {text run : List Char} {others : List Pattern} {fresh : Bool}
    {kept : Option (List Char)} :
    (sequence (characters text ++ others)).Reads fresh run kept ↔
      ∃ back, (sequence others).Reads (freshBehind fresh text) back kept ∧ run = text ++ back := by
  induction text generalizing fresh run kept with
  | nil => simp [characters, freshBehind]
  | cons c text inductionHypothesis =>
    have split : characters (c :: text) ++ others = .literal [c] :: (characters text ++ others) := rfl
    rw [split]
    simp only [sequence, Pattern.Reads, inductionHypothesis]
    constructor
    · rintro ⟨_, _, _, _, ⟨rfl, rfl⟩, ⟨back, reads, rfl⟩, rfl, rfl⟩
      rw [Option.or_none]
      exact ⟨back, reads, rfl⟩
    · rintro ⟨back, reads, rfl⟩
      exact ⟨[c], none, _, kept, ⟨rfl, rfl⟩, ⟨back, reads, rfl⟩, rfl, by simp⟩

end ProjectGauge.Text.Expression
