import ProjectGauge.Script.Module
import ProjectGauge.Proofs.Script.Tokens

/-!
# Plain import declarations

A plain declaration is written on one line with single spaces.  Its parts carry what makes them plain: a
name is a word of ASCII that is not reserved, and a specifier has no character that would end it or that
would not stand for itself.

* `PlainImport` is a plain declaration, `PlainImport.text` its line.
* `importSources_plain`: the parser finds the specifiers of a module of plain declarations.
-/

namespace ProjectGauge.Script

/-! ## Names -/

/-- The words that no module may choose as names. -/
def reservedWords : List String :=
  keywords ++ constants ++ strictWords

/-- A character of ASCII that a name may start with. -/
def isNameStart (c : Char) : Bool :=
  c.isAlpha || c == '$' || c == '_'

/-- A character of ASCII that a name may go on with. -/
def isNamePart (c : Char) : Bool :=
  isNameStart c || c.isDigit

/-- A name in ASCII. -/
structure Identifier where
  letters : List Char
  starts : letters.head?.any isNameStart = true
  continues : ∀ c ∈ letters, isNamePart c = true
  free : String.ofList letters ∉ reservedWords

namespace Identifier

/-- The word of a name. -/
def word (name : Identifier) : String :=
  String.ofList name.letters

/-- A name as a token. -/
def token (name : Identifier) : Token :=
  .name name.word

end Identifier

/-! ## Declarations -/

/-- A name that is imported, perhaps under another one. -/
structure ImportedName where
  name : Identifier
  alias? : Option Identifier

namespace ImportedName

/-- The text of a name that is imported. -/
def text (imported : ImportedName) : List Char :=
  match imported.alias? with
  | none => imported.name.letters
  | some other => imported.name.letters ++ " as ".toList ++ other.letters

/-- The tokens of a name that is imported. -/
def tokens (imported : ImportedName) : List Token :=
  match imported.alias? with
  | none => [imported.name.token]
  | some other => [imported.name.token, .name "as", other.token]

end ImportedName

/-- The names in braces, from one of them on to the closing brace. -/
def namesText (imported : ImportedName) : List ImportedName → List Char
  | [] => imported.text ++ " \x7d".toList
  | next :: others => imported.text ++ ", ".toList ++ namesText next others

/-- The tokens of the names in braces, from one of them on to the closing brace. -/
def namesTokens (imported : ImportedName) : List ImportedName → List Token
  | [] => imported.tokens ++ [.sign "\x7d"]
  | next :: others => imported.tokens ++ .sign "," :: namesTokens next others

/-- What a declaration imports from a module. -/
inductive ImportClause where
  | bare
  | default (name : Identifier)
  | all (name : Identifier)
  | names (first : ImportedName) (others : List ImportedName)
  | defaultAndNames (name : Identifier) (first : ImportedName) (others : List ImportedName)
  | defaultAndAll (name whole : Identifier)

namespace ImportClause

/-- The text of a clause, with the word `from` and a space behind it. -/
def text : ImportClause → List Char
  | bare => []
  | default name => name.letters ++ " from ".toList
  | all name => "* as ".toList ++ name.letters ++ " from ".toList
  | names first others => "\x7b ".toList ++ namesText first others ++ " from ".toList
  | defaultAndNames name first others =>
    name.letters ++ ", \x7b ".toList ++ namesText first others ++ " from ".toList
  | defaultAndAll name whole => name.letters ++ ", * as ".toList ++ whole.letters ++ " from ".toList

/-- The tokens of a clause. -/
def tokens : ImportClause → List Token
  | bare => []
  | default name => [name.token, .name "from"]
  | all name => [.sign "*", .name "as", name.token, .name "from"]
  | names first others => .sign "\x7b" :: namesTokens first others ++ [.name "from"]
  | defaultAndNames name first others =>
    [name.token, .sign ",", .sign "\x7b"] ++ namesTokens first others ++ [.name "from"]
  | defaultAndAll name whole =>
    [name.token, .sign ",", .sign "*", .name "as", whole.token, .name "from"]

end ImportClause

/-- A character that a specifier may have: no quotation mark, no backslash and no end of a line. -/
def isSpecifierChar (c : Char) : Bool :=
  c != '\x27' && c != '\x22' && c != '\\' && !isLineBreak c

/-- A specifier that stands for itself between quotation marks. -/
structure Specifier where
  text : List Char
  nonempty : text ≠ []
  plain : ∀ c ∈ text, isSpecifierChar c = true

/-- A plain import declaration. -/
structure PlainImport where
  clause : ImportClause
  isDouble : Bool
  specifier : Specifier

namespace PlainImport

/-- The quotation mark around the specifier. -/
def quote (declaration : PlainImport) : Char :=
  if declaration.isDouble then '\x22' else '\x27'

/-- The line of a declaration. -/
def text (declaration : PlainImport) : List Char :=
  "import ".toList ++ declaration.clause.text ++
    declaration.quote :: declaration.specifier.text ++ declaration.quote :: ";\n".toList

/-- The tokens of a declaration. -/
def tokens (declaration : PlainImport) : List Token :=
  .keyword "import" :: declaration.clause.tokens ++ [.text declaration.specifier.text, .sign ";"]

end PlainImport

/-- The text of a module of declarations. -/
def moduleText (declarations : List PlainImport) : List Char :=
  declarations.flatMap PlainImport.text

/-! ## Characters of names -/

/-- What holds of the first 128 characters one by one holds of each of them. -/
theorem forall_ascii (holds : Char → Bool) (all : ∀ n < 128, holds (Char.ofNat n) = true) {c : Char}
    (ascii : c.toNat < 128) : holds c = true := by
  have here := all c.toNat ascii
  rwa [Char.ofNat_toNat] at here

theorem ascii_of_isNamePart {c : Char} (isPart : isNamePart c = true) : c.toNat < 128 := by
  unfold isNamePart isNameStart at isPart
  delta Char.isAlpha Char.isUpper Char.isLower Char.isDigit at isPart
  simp only [Bool.or_eq_true, beq_iff_eq, Bool.and_eq_true, decide_eq_true_eq,
    UInt32.le_iff_toNat_le] at isPart
  -- In a range of letters or digits the upper end is in ASCII.
  rcases isPart with (((upper | lower) | rfl) | rfl) | digit
  · exact Nat.lt_of_le_of_lt upper.2 (by decide)
  · exact Nat.lt_of_le_of_lt lower.2 (by decide)
  · decide
  · decide
  · exact Nat.lt_of_le_of_lt digit.2 (by decide)

theorem identifierPart_of_isNamePart {c : Char} (isPart : isNamePart c = true) :
    Text.isIdentifierPart c = true ∧ c ≠ '\\' := by
  have checked := forall_ascii (fun c => !isNamePart c ||
    (Text.isIdentifierPart c && c != '\\')) (by decide +kernel) (ascii_of_isNamePart isPart)
  simpa [isPart] using checked

theorem startsToken_of_isNameStart {c : Char} (starts : isNameStart c = true) :
    Text.isIdentifierStart c = true ∧ startsToken c = true := by
  have isPart : isNamePart c = true := by simp [isNamePart, starts]
  have checked := forall_ascii (fun c => !isNameStart c ||
    (Text.isIdentifierStart c && startsToken c)) (by decide +kernel) (ascii_of_isNamePart isPart)
  simpa [starts] using checked

/-- No character of a word stands at the front of a text. -/
def EndsWord (rest : List Char) : Prop :=
  ∀ c ∈ rest.head?, Text.isIdentifierPart c = false

theorem endsWord_cons {c : Char} {rest : List Char} (ends : Text.isIdentifierPart c = false) :
    EndsWord (c :: rest) := by
  intro d inside
  cases inside
  exact ends

/-! ## Tokens of a declaration -/

variable {rest : List Char} {tokens : List Token}

theorem strict_ofWord {word : String} (free : word ∉ reservedWords) :
    (Token.ofWord word).strict = .name word := by
  simp only [reservedWords, List.mem_append, not_or] at free
  simp [Token.ofWord, Token.strict, free]

theorem yields_name (name : Identifier) (ends : EndsWord rest) (others : Yields rest tokens) :
    Yields (name.letters ++ rest) (name.token :: tokens) := by
  obtain ⟨letters, starts, continues, free⟩ := name
  cases letters with
  | nil => cases starts
  | cons first more =>
    obtain ⟨isStart, isToken⟩ := startsToken_of_isNameStart (c := first) (by simpa using starts)
    have scans : Scans (first :: more ++ rest) (.ofWord (String.ofList (first :: more))) rest :=
      scans_word isStart isToken
      (fun c inside => (identifierPart_of_isNamePart (continues c inside)).1)
      (fun inside => (identifierPart_of_isNamePart (continues '\\' inside)).2 rfl) ends
    have yields := Yields.cons scans others
    rwa [strict_ofWord free] at yields

/-- A word that is written out in a declaration. -/
theorem yields_word (first : Char) (more : List Char) (ends : EndsWord rest)
    (others : Yields rest tokens)
    (isWord : (Text.isIdentifierStart first && startsToken first &&
      (first :: more).all fun c => Text.isIdentifierPart c && c != '\\') = true) :
    Yields (first :: more ++ rest) ((Token.ofWord (String.ofList (first :: more))).strict :: tokens) := by
  simp only [Bool.and_eq_true, List.all_eq_true, bne_iff_ne, ne_eq] at isWord
  obtain ⟨⟨isStart, isToken⟩, parts⟩ := isWord
  exact .cons (scans_word isStart isToken (fun c inside => (parts c inside).1)
    (fun inside => (parts '\\' inside).2 rfl) ends) others

theorem yields_from (others : Yields rest tokens) :
    Yields (" from ".toList ++ rest) (.name "from" :: tokens) :=
  Yields.space (yields_word 'f' ['r', 'o', 'm'] (endsWord_cons (by decide))
    others.space (by decide))

theorem yields_as (others : Yields rest tokens) :
    Yields (" as ".toList ++ rest) (.name "as" :: tokens) :=
  Yields.space (yields_word 'a' ['s'] (endsWord_cons (by decide)) others.space
    (by decide))

theorem yields_imported (imported : ImportedName) (ends : EndsWord rest) (others : Yields rest tokens) :
    Yields (imported.text ++ rest) (imported.tokens ++ tokens) := by
  obtain ⟨name, alias?⟩ := imported
  cases alias? with
  | none => exact yields_name name ends others
  | some other =>
    simp only [ImportedName.text, ImportedName.tokens, List.append_assoc]
    exact yields_name name (endsWord_cons (by decide)) (yields_as (yields_name other ends others))

theorem yields_names (imported : ImportedName) (more : List ImportedName)
    (others : Yields rest tokens) :
    Yields (namesText imported more ++ rest) (namesTokens imported more ++ tokens) := by
  induction more generalizing imported with
  | nil =>
    simp only [namesText, namesTokens, List.append_assoc]
    exact yields_imported imported (endsWord_cons (by decide))
      (Yields.space (.cons (scans_closingBrace _) others))
  | cons next more inductionHypothesis =>
    simp only [namesText, namesTokens, List.append_assoc]
    exact yields_imported imported (endsWord_cons (by decide))
      (.cons (scans_comma _) (inductionHypothesis next).space)

theorem yields_clause (clause : ImportClause) (others : Yields rest tokens) :
    Yields (clause.text ++ rest) (clause.tokens ++ tokens) := by
  cases clause with
  | bare => exact others
  | default name =>
    simp only [ImportClause.text, ImportClause.tokens, List.append_assoc]
    exact yields_name name (endsWord_cons (by decide)) (yields_from others)
  | all name =>
    simp only [ImportClause.text, ImportClause.tokens, List.append_assoc]
    exact .cons (scans_star _) (yields_as (yields_name name (endsWord_cons (by decide))
      (yields_from others)))
  | names first more =>
    simp only [ImportClause.text, ImportClause.tokens, List.append_assoc]
    exact .cons (scans_brace _) (Yields.space (yields_names first more (yields_from others)))
  | defaultAndNames name first more =>
    simp only [ImportClause.text, ImportClause.tokens, List.append_assoc]
    exact yields_name name (endsWord_cons (by decide)) (.cons (scans_comma _)
      (Yields.space (.cons (scans_brace _) (Yields.space (yields_names first more
        (yields_from others))))))
  | defaultAndAll name whole =>
    simp only [ImportClause.text, ImportClause.tokens, List.append_assoc]
    exact yields_name name (endsWord_cons (by decide)) (.cons (scans_comma _)
      (Yields.space (.cons (scans_star _) (yields_as (yields_name whole (endsWord_cons (by decide))
        (yields_from others))))))

theorem PlainImport.quote_eq (declaration : PlainImport) :
    declaration.quote = '\x22' ∨ declaration.quote = '\x27' := by
  unfold PlainImport.quote
  split
  · exact .inl rfl
  · exact .inr rfl

theorem PlainImport.isPlain (declaration : PlainImport) :
    ∀ c ∈ declaration.specifier.text, IsPlain declaration.quote c := by
  intro c inside
  have isChar := declaration.specifier.plain c inside
  simp only [isSpecifierChar, Bool.and_eq_true, bne_iff_ne, ne_eq, Bool.not_eq_true'] at isChar
  obtain ⟨⟨⟨notSingle, notDouble⟩, notEscape⟩, notBreak⟩ := isChar
  refine ⟨?_, notEscape, notBreak⟩
  rcases declaration.quote_eq with same | same <;> rw [same]
  · exact notDouble
  · exact notSingle

theorem yields_declaration (declaration : PlainImport) (others : Yields rest tokens) :
    Yields (declaration.text ++ rest) (declaration.tokens ++ tokens) := by
  have behind : Yields (declaration.quote :: declaration.specifier.text ++ declaration.quote ::
      (";\n".toList ++ rest)) (.text declaration.specifier.text :: .sign ";" :: tokens) :=
    .cons (scans_text _ declaration.quote_eq declaration.isPlain)
      (.cons (scans_semicolon _) others.lineFeed)
  have whole : declaration.text ++ rest = "import".toList ++ ' ' :: (declaration.clause.text ++
      (declaration.quote :: declaration.specifier.text ++ declaration.quote ::
        (";\n".toList ++ rest))) := by
    have word : "import ".toList = "import".toList ++ [' '] := rfl
    unfold PlainImport.text
    simp only [word, List.append_assoc, List.cons_append, List.nil_append]
  have all : declaration.tokens ++ tokens = .keyword "import" :: (declaration.clause.tokens ++
      (.text declaration.specifier.text :: .sign ";" :: tokens)) := by
    simp only [PlainImport.tokens, List.append_assoc, List.cons_append, List.nil_append]
  rw [whole, all]
  exact yields_word 'i' ['m', 'p', 'o', 'r', 't'] (endsWord_cons (by decide))
    (yields_clause declaration.clause behind).space (by decide)

theorem yields_module (declarations : List PlainImport) :
    Yields (moduleText declarations) (declarations.flatMap PlainImport.tokens ++ [.finish]) := by
  induction declarations with
  | nil => exact .cons scans_finish .nil
  | cons declaration others inductionHypothesis =>
    simp only [moduleText, List.flatMap_cons, List.append_assoc]
    exact yields_declaration declaration inductionHypothesis

/-! ## The parser on the tokens of a declaration -/

variable {limit : Nat} {following : Token}

theorem runs_moduleSource (source : List Char) :
    Runs limit moduleSource (.text source :: following :: tokens) source (following :: tokens) :=
  Runs.bind runs_advance (Runs.pure source)

theorem runs_fromSource (source : List Char) :
    Runs limit fromSource (.name "from" :: .text source :: following :: tokens) source
      (following :: tokens) := by
  unfold fromSource
  refine Runs.bind (runs_nextIsName "from") ?_
  exact Runs.bind runs_advance (runs_moduleSource source)

theorem runs_boundName (word : String) :
    Runs limit boundName (.name word :: following :: tokens) (.name word) (following :: tokens) :=
  Runs.bind runs_advance (Runs.pure _)

theorem runs_importName (imported : ImportedName) (different : (following == .name "as") = false) :
    Runs limit importName (imported.tokens ++ following :: tokens) () (following :: tokens) := by
  obtain ⟨name, alias?⟩ := imported
  unfold importName
  cases alias? with
  | none =>
    refine Runs.get fun state isNext _ => ?_
    rw [isNext]
    refine Runs.bind runs_advance (Runs.bind (runs_nextIsName "as") ?_)
    rw [different]
    exact Runs.pure ()
  | some other =>
    refine Runs.get fun state isNext _ => ?_
    rw [isNext]
    refine Runs.bind runs_advance (Runs.bind (runs_nextIsName "as") ?_)
    exact Runs.bind runs_advance (Runs.bind (runs_boundName other.word) (Runs.pure ()))

theorem ImportedName.tokens_eq (imported : ImportedName) :
    ∃ others, imported.tokens = imported.name.token :: others := by
  obtain ⟨name, alias?⟩ := imported
  cases alias? with
  | none => exact ⟨[], rfl⟩
  | some other => exact ⟨_, rfl⟩

theorem namesTokens_eq (first : ImportedName) (others : List ImportedName) :
    ∃ later, namesTokens first others = first.name.token :: later := by
  obtain ⟨ofFirst, ofFirstIs⟩ := first.tokens_eq
  cases others <;> simp [namesTokens, ofFirstIs]

/-- One name of a list, with the comma behind it unless the list ends there. -/
def listedName : Parse Unit := do
  let item ← importName
  if !(← nextIs "\x7d") then expect ","
  return item

theorem runs_listedName_last (imported : ImportedName) :
    Runs limit listedName (imported.tokens ++ .sign "\x7d" :: tokens) () (.sign "\x7d" :: tokens) := by
  unfold listedName
  exact Runs.bind (runs_importName imported rfl) (Runs.bind (runs_nextIs "\x7d") (Runs.pure ()))

theorem runs_listedName (imported : ImportedName) :
    Runs limit listedName (imported.tokens ++ .sign "," :: following :: tokens) ()
      (following :: tokens) := by
  unfold listedName
  refine Runs.bind (runs_importName imported rfl) (Runs.bind (runs_nextIs "\x7d") ?_)
  exact Runs.bind runs_expectToken (Runs.pure ())

theorem runs_names_ahead (imported : ImportedName) :
    Runs limit (nextIs "\x7d") (imported.tokens ++ tokens) false (imported.tokens ++ tokens) := by
  obtain ⟨others, split⟩ := imported.tokens_eq
  rw [split]
  exact runs_nextIs "\x7d"

/-- The names in braces are read one by one, in as many rounds as there are names and one more. -/
theorem runs_names (imported : ImportedName) (more : List ImportedName) (rounds : Nat)
    (parts : List Unit) (enough : more.length + 1 < rounds) :
    ∃ names, Runs limit (loopUpTo (partStep (nextIs "\x7d") listedName) rounds parts)
      (namesTokens imported more ++ tokens) names (.sign "\x7d" :: tokens) := by
  -- What has been read already does not matter, so it is general, and so is the number of rounds left.
  induction more generalizing imported rounds parts with
  | nil =>
    obtain ⟨rounds, rfl⟩ : ∃ fewer, rounds = fewer + 2 := ⟨rounds - 2, by simp at enough; omega⟩
    refine ⟨(() :: parts).reverse, ?_⟩
    simp only [namesTokens, List.append_assoc]
    exact Runs.loop_part (runs_names_ahead imported) (runs_listedName_last imported)
      (Runs.loop_end (runs_nextIs "\x7d"))
  | cons next more inductionHypothesis =>
    obtain ⟨rounds, rfl⟩ : ∃ fewer, rounds = fewer + 1 := ⟨rounds - 1, by simp at enough; omega⟩
    obtain ⟨names, others⟩ := inductionHypothesis next rounds (() :: parts) (by simp at enough; omega)
    obtain ⟨nextTokens, split⟩ := namesTokens_eq next more
    refine ⟨names, ?_⟩
    simp only [namesTokens, List.append_assoc, List.cons_append]
    rw [split] at others ⊢
    exact Runs.loop_part (runs_names_ahead imported) (runs_listedName imported) others

theorem runs_importNames (imported : ImportedName) (more : List ImportedName)
    (enough : more.length + 1 < limit) :
    Runs limit importNames (.sign "\x7b" :: (namesTokens imported more ++ following :: tokens)) ()
      (following :: tokens) := by
  obtain ⟨nextTokens, split⟩ := namesTokens_eq imported more
  obtain ⟨names, read⟩ := @runs_names (following :: tokens) limit imported more limit []
    enough
  have listed : Runs limit (manyUntil (nextIs "\x7d") listedName)
      (namesTokens imported more ++ following :: tokens) names (.sign "\x7d" :: following :: tokens) := by
    intro state ahead
    rw [manyUntil_run]
    exact read state ahead
  unfold importNames commaList
  rw [split] at listed ⊢
  exact Runs.bind runs_expectToken (Runs.bind (Runs.bind listed (Runs.bind runs_expectToken
    (Runs.pure names))) (Runs.pure ()))

theorem runs_importAll (name : Identifier) :
    Runs limit importAll (.sign "*" :: .name "as" :: name.token :: following :: tokens) ()
      (following :: tokens) := by
  unfold importAll
  refine Runs.bind runs_expectToken (Runs.bind runs_advance ?_)
  exact Runs.bind (runs_anyWord name.word) (Runs.pure ())

theorem runs_importDefault (name : Identifier) (different : (following == .sign ",") = false) :
    Runs limit importDefault (name.token :: following :: tokens) () (following :: tokens) := by
  unfold importDefault
  refine Runs.bind (runs_nextIsKeyword "default") ?_
  refine Runs.bind (runs_anyWord name.word) (Runs.bind (runs_accept_other different) ?_)
  exact Runs.pure ()

theorem runs_importDefault_all (name whole : Identifier) :
    Runs limit importDefault (name.token :: .sign "," :: .sign "*" :: .name "as" :: whole.token ::
      following :: tokens) () (following :: tokens) := by
  unfold importDefault
  refine Runs.bind (runs_nextIsKeyword "default") ?_
  refine Runs.bind (runs_anyWord name.word) (Runs.bind (runs_accept ",") ?_)
  exact Runs.bind (runs_nextIs "*") (runs_importAll whole)

theorem runs_importDefault_names (name : Identifier) (imported : ImportedName)
    (more : List ImportedName) (enough : more.length + 1 < limit) :
    Runs limit importDefault (name.token :: .sign "," :: .sign "\x7b" ::
      (namesTokens imported more ++ following :: tokens)) () (following :: tokens) := by
  unfold importDefault
  refine Runs.bind (runs_nextIsKeyword "default") ?_
  refine Runs.bind (runs_anyWord name.word) (Runs.bind (runs_accept ",") ?_)
  refine Runs.bind (runs_nextIs "*") (Runs.bind (runs_nextIs "\x7b") ?_)
  exact runs_importNames imported more enough

/-- The number of names in the braces of a clause. -/
def ImportClause.size : ImportClause → Nat
  | names _ others => others.length + 1
  | defaultAndNames _ _ others => others.length + 1
  | _ => 0

/-- What is left of a declaration behind its clause. -/
theorem runs_declarationEnd (source : List Char) :
    Runs limit (do
      let source ← fromSource
      endStatement
      return Node.importing source)
      (.name "from" :: .text source :: .sign ";" :: following :: tokens) (.importing source)
      (following :: tokens) :=
  Runs.bind (runs_fromSource source) (Runs.bind runs_endStatement (Runs.pure _))

theorem runs_clause (clause : ImportClause) (source : List Char) (enough : clause.size < limit) :
    Runs limit importDeclaration (.keyword "import" :: (clause.tokens ++
      .text source :: .sign ";" :: following :: tokens)) (.importing source) (following :: tokens) := by
  unfold importDeclaration
  refine Runs.get fun state _ outside => ?_
  rw [outside]
  -- The token behind the word `import` decides which branch is taken.
  cases clause with
  | bare =>
    refine Runs.bind runs_expectToken (Runs.get fun state isNext _ => ?_)
    rw [isNext]
    exact Runs.bind (runs_moduleSource source) (Runs.bind runs_endStatement (Runs.pure _))
  | default name =>
    refine Runs.bind runs_expectToken (Runs.get fun state isNext _ => ?_)
    rw [isNext]
    exact Runs.bind (runs_importDefault name rfl) (runs_declarationEnd source)
  | all name =>
    refine Runs.bind runs_expectToken (Runs.get fun state isNext _ => ?_)
    rw [isNext]
    exact Runs.bind (runs_importAll name) (runs_declarationEnd source)
  | names first others =>
    simp only [ImportClause.tokens, List.cons_append, List.append_assoc, List.nil_append]
    refine Runs.bind runs_expectToken (Runs.get fun state isNext _ => ?_)
    rw [isNext]
    exact Runs.bind (runs_importNames first others enough) (runs_declarationEnd source)
  | defaultAndNames name first others =>
    simp only [ImportClause.tokens, List.cons_append, List.append_assoc, List.nil_append]
    refine Runs.bind runs_expectToken (Runs.get fun state isNext _ => ?_)
    rw [isNext]
    exact Runs.bind (runs_importDefault_names name first others enough) (runs_declarationEnd source)
  | defaultAndAll name whole =>
    refine Runs.bind runs_expectToken (Runs.get fun state isNext _ => ?_)
    rw [isNext]
    exact Runs.bind (runs_importDefault_all name whole) (runs_declarationEnd source)

/-- What stands behind the word `import` in a declaration is no parenthesis. -/
theorem clause_not_call (clause : ImportClause) (source : List Char) :
    ∃ first others, clause.tokens ++ .text source :: .sign ";" :: tokens = first :: others ∧
      first ≠ .sign "(" := by
  cases clause with
  | bare => exact ⟨_, _, rfl, by simp⟩
  | default name => exact ⟨_, _, rfl, by simp [Identifier.token]⟩
  | all name => exact ⟨_, _, rfl, by decide⟩
  | names first others => exact ⟨_, _, rfl, by decide⟩
  | defaultAndNames name first others => exact ⟨_, _, rfl, by simp [Identifier.token]⟩
  | defaultAndAll name whole => exact ⟨_, _, rfl, by simp [Identifier.token]⟩

theorem runs_item (g : Grammar) (declaration : PlainImport)
    (enough : declaration.clause.size < limit) :
    Runs limit (item g) (declaration.tokens ++ following :: tokens)
      (.importing declaration.specifier.text) (following :: tokens) := by
  have parsed : Runs limit importDeclaration (.keyword "import" :: (declaration.clause.tokens ++
      .text declaration.specifier.text :: .sign ";" :: following :: tokens))
      (.importing declaration.specifier.text) (following :: tokens) :=
    runs_clause declaration.clause declaration.specifier.text enough
  obtain ⟨first, others, split, notCall⟩ :=
    @clause_not_call (following :: tokens) declaration.clause declaration.specifier.text
  simp only [PlainImport.tokens, List.cons_append, List.append_assoc, List.nil_append] at parsed ⊢
  rw [split] at parsed ⊢
  unfold item
  refine Runs.bind (runs_setBindable true) (Runs.get fun state isNext _ => ?_)
  rw [isNext]
  exact Runs.bind (runs_startsImportCall notCall) parsed

/-! ## Modules of declarations -/

/-- The end of the module is ahead. -/
def atFinish : Parse Bool := do
  return (← get).next == .finish

theorem runs_atFinish : Runs limit atFinish (following :: tokens) (following == .finish)
    (following :: tokens) :=
  Runs.get fun _ isNext _ => isNext ▸ Runs.pure _

/-- The declarations of a module are read one by one, in as many rounds as there are declarations and one
more. -/
theorem runs_declarations (depth : Nat) (declarations : List PlainImport) (rounds : Nat)
    (parts : List Node) (enough : declarations.length < rounds)
    (few : ∀ declaration ∈ declarations, declaration.clause.size < limit) :
    Runs limit (loopUpTo (partStep atFinish (grammar (depth + 1) .item)) rounds parts)
      (declarations.flatMap PlainImport.tokens ++ [.finish])
      (parts.reverse ++ declarations.map fun declaration => .importing declaration.specifier.text)
      [.finish] := by
  induction declarations generalizing rounds parts with
  | nil =>
    obtain ⟨rounds, rfl⟩ : ∃ fewer, rounds = fewer + 1 := ⟨rounds - 1, by simp at enough; omega⟩
    rw [List.map_nil, List.append_nil]
    exact Runs.loop_end runs_atFinish
  | cons declaration others inductionHypothesis =>
    obtain ⟨rounds, rfl⟩ : ∃ fewer, rounds = fewer + 1 := ⟨rounds - 1, by simp at enough; omega⟩
    have later := inductionHypothesis rounds (.importing declaration.specifier.text :: parts)
      (by simp at enough; omega) fun other inside => few other (List.mem_cons_of_mem _ inside)
    -- Behind a declaration there is always a token, that of the next one or the end.
    obtain ⟨next, further, split⟩ : ∃ next further,
        others.flatMap PlainImport.tokens ++ [.finish] = next :: further := by
      cases others with
      | nil => exact ⟨_, _, rfl⟩
      | cons other more => exact ⟨_, _, rfl⟩
    have parsed : Runs limit (grammar (depth + 1) .item) (declaration.tokens ++ next :: further)
        (.importing declaration.specifier.text) (next :: further) :=
      runs_item (grammar depth) declaration (few declaration List.mem_cons_self)
    have more : Runs limit atFinish (declaration.tokens ++ next :: further) false
        (declaration.tokens ++ next :: further) := runs_atFinish
    rw [split] at later
    rw [List.flatMap_cons, List.append_assoc, split]
    simpa using Runs.loop_part more parsed later

theorem runs_directives (g : Grammar) (notText : ∀ value, following ≠ .text value)
    (positive : 0 < limit) :
    Runs limit (directives g) (following :: tokens) () (following :: tokens) := by
  intro state ahead
  have isNext : state.next = following := (Option.some.inj ahead.next).symm
  obtain ⟨rounds, rfl⟩ : ∃ rounds, limit = rounds + 1 := ⟨limit - 1, by omega⟩
  refine ⟨state, ?_, ahead⟩
  unfold directives loop
  simp only [bind_run, read_run, ok_bind, loopUpTo, get_run, isNext]
  cases following with
  | text value => exact absurd rfl (notText value)
  | _ => rfl

/-- A text whose first token is the same in strict code starts with that token. -/
theorem initialState_of_yields {text : List Char} (yields : Yields text (following :: tokens))
    (same : ∀ raw : Token, raw.strict = following → raw = following) :
    ∃ state, initialState text = .ok state ∧ Ahead state (following :: tokens) := by
  cases yields with
  | cons scans others =>
    rename_i rest raw
    obtain ⟨after, scanned, isRest, plain⟩ :=
      scans.skipSpace true ⟨⟨text, 1, true⟩, []⟩ rfl List.not_mem_nil
    rw [← isRest] at others
    have begun : initialState text = .ok {
        scanner := after
        next := raw
        line := after.place.line
        start := ((Scanner.mk ⟨text, 1, true⟩ []).skipSpace true).place
        afterBreak := after.place.line != 1
        scope := ⟨false, true, true, false, false, false, []⟩
        cover := ⟨false, false⟩ } := by
      unfold initialState
      dsimp only
      rw [scanned]
    exact ⟨_, begun, ⟨congrArg some (same raw rfl).symm, others, plain, rfl⟩⟩

/-- A module of declarations starts with the first one, or is at its end. -/
theorem initialState_plain (declarations : List PlainImport) :
    ∃ state, initialState (moduleText declarations) = .ok state ∧
      Ahead state (declarations.flatMap PlainImport.tokens ++ [.finish]) := by
  have yields := yields_module declarations
  cases declarations with
  | nil =>
    refine initialState_of_yields yields fun raw isFinish => ?_
    cases raw with
    | finish => rfl
    | name word =>
      simp only [Token.strict] at isFinish
      split at isFinish <;> cases isFinish
    | _ => cases isFinish
  | cons declaration others =>
    refine initialState_of_yields yields fun raw isImport => ?_
    cases raw with
    | name word =>
      simp only [Token.strict] at isImport
      split at isImport
      · rename_i isStrict
        cases isImport
        exact absurd isStrict (by decide)
      · cases isImport
    | _ => exact isImport

/-! ## The length of a module -/

theorem size_le_text (clause : ImportClause) : clause.size ≤ clause.text.length := by
  have names : ∀ first others, others.length + 1 ≤ (namesText first others).length := by
    intro first others
    induction others generalizing first with
    | nil => simp [namesText]
    | cons next others inductionHypothesis =>
      have shorter := inductionHypothesis next
      simp only [namesText, List.length_append, List.length_cons]
      simp at *
      omega
  cases clause with
  | names first others =>
    have := names first others
    simp only [ImportClause.size, ImportClause.text, List.length_append]
    omega
  | defaultAndNames name first others =>
    have := names first others
    simp only [ImportClause.size, ImportClause.text, List.length_append]
    omega
  | _ => exact Nat.zero_le _

theorem size_lt_text (declaration : PlainImport) :
    declaration.clause.size < declaration.text.length := by
  have size := size_le_text declaration.clause
  have whole : declaration.text.length = "import ".toList.length + declaration.clause.text.length +
      (declaration.specifier.text.length + 1) + (";\n".toList.length + 1) := by
    unfold PlainImport.text
    rw [List.length_append, List.length_append, List.length_append, List.length_cons,
      List.length_cons]
  rw [whole]
  calc declaration.clause.size
    _ ≤ "import ".toList.length + declaration.clause.text.length :=
      Nat.le_trans size (Nat.le_add_left _ _)
    _ ≤ _ := Nat.le_add_right _ (declaration.specifier.text.length + 1)
    _ < _ := Nat.lt_add_of_pos_right (Nat.succ_pos _)

theorem length_le_moduleText (declarations : List PlainImport) :
    declarations.length ≤ (moduleText declarations).length ∧
      ∀ declaration ∈ declarations, declaration.clause.size ≤ (moduleText declarations).length := by
  induction declarations with
  | nil => exact ⟨Nat.zero_le _, by simp⟩
  | cons declaration others inductionHypothesis =>
    obtain ⟨shorter, smaller⟩ := inductionHypothesis
    have size := size_lt_text declaration
    have whole : (moduleText (declaration :: others)).length =
        declaration.text.length + (moduleText others).length := by
      simp only [moduleText, List.flatMap_cons, List.length_append]
    rw [whole]
    refine ⟨?_, fun other inside => ?_⟩
    · rw [List.length_cons, Nat.add_comm]
      exact Nat.add_le_add (Nat.succ_le_of_lt (Nat.zero_lt_of_lt size)) shorter
    · rcases List.mem_cons.mp inside with rfl | inside
      · exact Nat.le_trans (Nat.le_of_lt size) (Nat.le_add_right _ _)
      · exact Nat.le_trans (smaller other inside) (Nat.le_add_left _ _)

/-- The parser finds the specifiers of a module of plain declarations, in their order. -/
theorem importSources_plain (declarations : List PlainImport) :
    importSources (moduleText declarations) =
      .ok (declarations.map fun declaration => declaration.specifier.text) := by
  obtain ⟨shorter, smaller⟩ := length_le_moduleText declarations
  obtain ⟨state, isInitial, ahead⟩ := initialState_plain declarations
  obtain ⟨depth, isDepth⟩ : ∃ depth, depthFor (moduleText declarations) = depth + 1 :=
    ⟨16 * (moduleText declarations).length + 15, by unfold depthFor; omega⟩
  -- No declaration starts with a text, which could be a directive.
  obtain ⟨next, further, split, notText⟩ : ∃ next further,
      declarations.flatMap PlainImport.tokens ++ [.finish] = next :: further ∧
        ∀ value, next ≠ .text value := by
    cases declarations with
    | nil => exact ⟨_, _, rfl, fun value isText => by cases isText⟩
    | cons declaration others => exact ⟨_, _, rfl, fun value isText => by cases isText⟩
  have read : Runs (limitFor (moduleText declarations))
      (moduleItems (grammar (depthFor (moduleText declarations))))
      (declarations.flatMap PlainImport.tokens ++ [.finish])
      (declarations.map fun declaration => .importing declaration.specifier.text) [.finish] := by
    have parts := @runs_declarations (limitFor (moduleText declarations)) depth declarations
      (limitFor (moduleText declarations)) []
      (Nat.lt_succ_of_le shorter) fun declaration inside =>
        Nat.lt_succ_of_le (smaller declaration inside)
    have begun : Runs (limitFor (moduleText declarations)) (directives (grammar (depth + 1)))
        (next :: further) () (next :: further) := runs_directives _ notText (Nat.succ_pos _)
    rw [List.reverse_nil, List.nil_append, split] at parts
    rw [isDepth, split]
    exact begun.bind parts
  obtain ⟨after, parsed, -⟩ := read state ahead
  unfold importSources
  rw [isInitial, ok_bind, parsed, ok_bind]
  refine congrArg Except.ok ?_
  rw [List.filterMap_map]
  exact congrFun List.filterMap_eq_map declarations

end ProjectGauge.Script
