import ProjectGauge.Proofs.Text.Expression
import ProjectGauge.Proofs.Usage.Reference

/-!
# The written patterns of a package

The patterns of a package are written as expressions, with the name of the package escaped in them.  Read
back, they describe what refers to the package.

* `requireExpression` and `fromExpression` are the expressions, which `read_requireExpression` and
  `read_fromExpression` read.
* `references_exact`: they match where a text that refers to the package stands, and find those that a scan
  from left to right meets.
-/

namespace ProjectGauge.Usage

open Text

variable {package run : List Char}

/-! ## Expressions -/

/-- The expression of a quoted specifier. -/
def quotedExpression (package : List Char) : List Char :=
  "['\"]".toList ++ (Expression.escape package ++ "(?:/[^'\"]+)?['\"]".toList)

def requireExpression (package : List Char) : List Char :=
  "require\\(".toList ++ (quotedExpression package ++ "\\)".toList)

def fromExpression (package : List Char) : List Char :=
  "from\\s+".toList ++ quotedExpression package

/-- The parts of a quoted specifier. -/
def quotedParts (package : List Char) : List Pattern :=
  .one isQuote :: (Expression.characters package ++
    [.optional (Expression.sequence [.literal ['/'], .some fun c => !isQuote c]), .one isQuote])

def quotedTokens (package : List Char) : List Expression.Token :=
  .one isQuote :: (package.map .literal ++ [.opening, .literal '/', .one fun c => !isQuote c, .repeated,
    .closing, .optional, .one isQuote])

theorem member_quotes : (fun c => ['\x27', '\x22'].contains c != false) = isQuote := by
  funext c
  exact Bool.eq_iff_iff.mpr (by simp [isQuote])

theorem member_others : (fun c => ['\x27', '\x22'].contains c != true) = fun c => !isQuote c := by
  funext c
  exact Bool.eq_iff_iff.mpr (by simp [isQuote])

theorem tokens_quotes (rest : List Char) :
    Expression.tokens none ("['\"]".toList ++ rest) =
      (Expression.tokens none rest).map (.one isQuote :: ·) := by
  rw [← member_quotes]
  rfl

theorem tokens_tail (rest : List Char) :
    Expression.tokens none ("(?:/[^'\"]+)?['\"]".toList ++ rest) =
      (Expression.tokens none rest).map fun behind => .opening :: .literal '/' ::
        .one (fun c => !isQuote c) :: .repeated :: .closing :: .optional :: .one isQuote :: behind := by
  rw [← member_others, ← member_quotes]
  cases tokens : Expression.tokens none rest <;>
    simp +decide [Expression.tokens, Expression.startsRepetition, tokens]

theorem tokens_quotedExpression (package rest : List Char) :
    Expression.tokens none (quotedExpression package ++ rest) =
      (Expression.tokens none rest).map (quotedTokens package ++ ·) := by
  unfold quotedExpression
  rw [List.append_assoc, List.append_assoc, tokens_quotes, Expression.tokens_escape, tokens_tail,
    Option.map_map, Option.map_map]
  refine congrArg (Option.map · _) (funext fun behind => ?_)
  simp [quotedTokens]

theorem parse_quotedTokens (package : List Char) (parts : List Pattern) (rest : List Expression.Token) :
    Expression.parse [] parts (quotedTokens package ++ rest) =
      Expression.parse [] ((quotedParts package).reverse ++ parts) rest := by
  unfold quotedTokens
  rw [List.cons_append, List.append_assoc, Expression.parse, Expression.parse_literals]
  simp [Expression.parse, quotedParts]

/-- The expression of `require` calls is read with the name of the package as it is. -/
theorem read_requireExpression (package : List Char) :
    Expression.read (requireExpression package) =
      some (Expression.sequence (Expression.characters "require(".toList ++
        (quotedParts package ++ [.literal [')']]))) := by
  have word : "require\\(".toList = Expression.escape "require(".toList := rfl
  have stop : Expression.tokens none "\\)".toList = some [.literal ')'] := rfl
  unfold Expression.read requireExpression
  rw [word, Expression.tokens_escape, tokens_quotedExpression, stop, Option.map_some, Option.map_some,
    Option.bind_some, Expression.parse_literals, parse_quotedTokens]
  simp [Expression.parse]

theorem tokens_blanks (package : List Char) :
    Expression.tokens none ("\\s+".toList ++ quotedExpression package) =
      (Expression.tokens none (quotedExpression package)).map fun behind =>
        .one isBlank :: .repeated :: behind := by
  have blank : Expression.tokens none ("\\s+".toList ++ quotedExpression package) =
      (Expression.tokens none ('+' :: quotedExpression package)).map (.one isBlank :: ·) := rfl
  have noRepetition : Expression.startsRepetition (quotedExpression package) = false := rfl
  rw [blank, Expression.tokens_repeated noRepetition, Option.map_map]
  rfl

/-- The expression of `from` clauses is read with the name of the package as it is. -/
theorem read_fromExpression (package : List Char) :
    Expression.read (fromExpression package) =
      some (Expression.sequence (Expression.characters "from".toList ++
        (.some isBlank :: quotedParts package))) := by
  have split : fromExpression package =
      Expression.escape "from".toList ++ ("\\s+".toList ++ quotedExpression package) := rfl
  have quoted := tokens_quotedExpression package []
  rw [List.append_nil] at quoted
  have stop : Expression.tokens none [] = some [] := rfl
  unfold Expression.read
  rw [split, Expression.tokens_escape, tokens_blanks, quoted, stop, Option.map_some, Option.map_some,
    Option.map_some, Option.bind_some, Expression.parse_literals, Expression.parse, Expression.parse,
    parse_quotedTokens]
  simp [Expression.parse]

/-! ## What the expressions describe -/

theorem reads_tail {tail : List Char} {fresh : Bool} {kept : Option (List Char)} :
    (Pattern.optional (Expression.sequence [.literal ['/'], .some fun c => !isQuote c])).Reads
        fresh tail kept ↔
      IsTail tail ∧ kept = none := by
  simp only [Expression.sequence, Pattern.Reads, Pattern.IsRun, Bool.not_eq_true']
  constructor
  · rintro (⟨_, _, _, _, ⟨rfl, rfl⟩, ⟨path, _, _, _, ⟨nonempty, unquoted, rfl⟩, ⟨rfl, rfl⟩, rfl, rfl⟩, rfl,
      rfl⟩ | ⟨rfl, rfl⟩)
    · rw [List.append_nil]
      exact ⟨.path nonempty unquoted, rfl⟩
    · exact ⟨.nothing, rfl⟩
  · rintro ⟨isTail, rfl⟩
    cases isTail with
    | nothing => exact .inr ⟨rfl, rfl⟩
    | @path rest nonempty unquoted =>
      exact .inl ⟨['/'], none, rest, none, ⟨rfl, rfl⟩,
        ⟨rest, none, [], none, ⟨nonempty, unquoted, rfl⟩, ⟨rfl, rfl⟩, (List.append_nil rest).symm, rfl⟩,
        rfl, rfl⟩

theorem reads_quotedParts {others : List Pattern} {fresh : Bool} {kept : Option (List Char)} :
    (Expression.sequence (quotedParts package ++ others)).Reads fresh run kept ↔
      ∃ quoted back, IsQuoted package quoted ∧
        (Expression.sequence others).Reads (freshBehind fresh quoted) back kept ∧ run = quoted ++ back := by
  unfold quotedParts
  rw [List.cons_append, Expression.sequence, List.append_assoc, Pattern.Reads]
  simp only [Expression.reads_literals, List.cons_append, List.nil_append, Expression.sequence]
  constructor
  · rintro ⟨_, _, _, _, ⟨opening, opens, rfl, rfl⟩, ⟨_, ⟨tail, _, _, _, readTail, ⟨_, _, back, keptBack,
      ⟨closing, closes, rfl, rfl⟩, reads, rfl, rfl⟩, rfl, rfl⟩, rfl⟩, rfl, rfl⟩
    obtain ⟨isTail, rfl⟩ := reads_tail.mp readTail
    refine ⟨_, back, .intro opens isTail closes, ?_, by simp⟩
    simpa [freshBehind, freshBehind_append] using reads
  · rintro ⟨_, back, @⟨opening, closing, tail, opens, isTail, closes⟩, reads, rfl⟩
    refine ⟨[opening], none, _, kept, ⟨opening, opens, rfl, rfl⟩, ⟨tail ++ ([closing] ++ back),
      ⟨tail, none, _, kept, reads_tail.mpr ⟨isTail, rfl⟩, ⟨[closing], none, back, kept,
        ⟨closing, closes, rfl, rfl⟩, ?_, rfl, by simp⟩, rfl, by simp⟩, rfl⟩, by simp, by simp⟩
    simpa [freshBehind, freshBehind_append] using reads

/-- What is read of the expression of `require` calls describes them. -/
theorem describes_requireExpression (package : List Char) :
    (Expression.sequence (Expression.characters "require(".toList ++
      (quotedParts package ++ [.literal [')']]))).Describes (IsRequireCall package) where
  reads fresh run kept := by
    rw [Expression.reads_literals]
    constructor
    · rintro ⟨_, reads, rfl⟩
      obtain ⟨quoted, _, isQuoted, ⟨_, _, _, _, ⟨rfl, rfl⟩, ⟨rfl, rfl⟩, rfl, rfl⟩, rfl⟩ :=
        reads_quotedParts.mp reads
      exact ⟨.intro isQuoted, rfl⟩
    · rintro ⟨⟨isQuoted⟩, rfl⟩
      exact ⟨_, reads_quotedParts.mpr ⟨_, [')'], isQuoted, ⟨[')'], none, [], none, ⟨rfl, rfl⟩, ⟨rfl, rfl⟩,
        rfl, rfl⟩, rfl⟩, rfl⟩
  unique := IsRequireCall.unique
  nonempty := nofun

/-- What is read of the expression of `from` clauses describes them. -/
theorem describes_fromExpression (package : List Char) :
    (Expression.sequence (Expression.characters "from".toList ++
      (.some isBlank :: quotedParts package))).Describes (IsFromClause package) where
  reads fresh run kept := by
    rw [Expression.reads_literals, ← List.append_nil (quotedParts package)]
    simp only [Expression.sequence, Pattern.Reads, Pattern.IsRun, reads_quotedParts]
    constructor
    · rintro ⟨_, ⟨blanks, _, _, _, ⟨nonempty, allBlank, rfl⟩, ⟨quoted, _, isQuoted, ⟨rfl, rfl⟩, rfl⟩, rfl,
        rfl⟩, rfl⟩
      rw [List.append_nil]
      exact ⟨.intro nonempty allBlank isQuoted, rfl⟩
    · rintro ⟨@⟨blanks, quoted, nonempty, allBlank, isQuoted⟩, rfl⟩
      exact ⟨_, ⟨blanks, none, quoted, none, ⟨nonempty, allBlank, rfl⟩, ⟨quoted, [], isQuoted, ⟨rfl, rfl⟩,
        (List.append_nil quoted).symm⟩, rfl, rfl⟩, rfl⟩
  unique := IsFromClause.unique
  nonempty := nofun

/-- An expression is read, and what it then finds in a text is what there is of a kind. -/
def WrittenFinds (expression : List Char) (isKind : List Char → Prop) (text : List Char)
    (found : List (List Char)) : Prop :=
  ∃ pattern, Expression.read expression = some pattern ∧ (pattern.findAll text).map (·.text) = found ∧
    pattern.FindsExactly isKind text found

/-- Two patterns that describe the same find the same. -/
theorem writtenFinds_of_describes {expression : List Char} {pattern written : Pattern}
    {isKind : List Char → Prop} (isRead : Expression.read expression = some written)
    (describes : written.Describes isKind) (others : pattern.Describes isKind) (text : List Char) :
    WrittenFinds expression isKind text ((pattern.findAll text).map (·.text)) := by
  have same : (written.findAll text).map (·.text) = (pattern.findAll text).map (·.text) :=
    describes.scans_unique (describes.scans true text) (others.scans true text)
  have finds := describes.finds text
  rw [same] at finds
  exact ⟨written, isRead, same, finds⟩

/-- The references to a package, whatever its name and whatever the text: the expressions with its escaped
name are patterns that match at an offset if a text that refers to the package stands there, which is then
the only one, and what they find in the whole text is what a scan from left to right meets. -/
theorem references_exact (package source : List Char) :
    WrittenFinds (requireExpression package) (IsRequireCall package) source
        (requireReferences package source) ∧
      WrittenFinds (fromExpression package) (IsFromClause package) source
        (fromReferences package source) :=
  ⟨writtenFinds_of_describes (read_requireExpression package) (describes_requireExpression package)
      (describes_requireCall package) source,
    writtenFinds_of_describes (read_fromExpression package) (describes_fromExpression package)
      (describes_fromClause package) source⟩

end ProjectGauge.Usage
