import ProjectGauge.Proofs.Imports.Declaration
import ProjectGauge.Proofs.Script.Import

/-!
# Two ways to the same specifiers

A script is parsed, and a source that is not parsed is searched for declarations by their form.  On plain
declarations it does not matter which of the two is done.

* `specifiersByForm_plain`: the search finds the specifiers of a module of plain declarations.
* `specifiers_plain`: so does the parser, and so the suffix of the source does not matter.
-/

namespace ProjectGauge.Imports

open Text Usage Script

/-! ## The gap of a plain declaration -/

theorem isClauseChar_of_isNamePart {c : Char} (isPart : isNamePart c = true) :
    isClauseChar c = true := by
  have checked := forall_ascii (fun c => !isNamePart c || isClauseChar c) (by decide +kernel)
    (ascii_of_isNamePart isPart)
  simpa [isPart] using checked

/-- All characters of a text are ones that a clause may have. -/
def AllClause (text : List Char) : Prop :=
  ∀ c ∈ text, isClauseChar c = true

instance (text : List Char) : Decidable (AllClause text) :=
  List.decidableBAll _ text

theorem AllClause.append {front back : List Char} (allFront : AllClause front)
    (allBack : AllClause back) : AllClause (front ++ back) := by
  intro c inside
  rcases List.mem_append.mp inside with inFront | inBack
  · exact allFront c inFront
  · exact allBack c inBack

theorem allClause_letters (name : Identifier) : AllClause name.letters :=
  fun c inside => isClauseChar_of_isNamePart (name.continues c inside)

theorem allClause_imported (imported : ImportedName) : AllClause imported.text := by
  obtain ⟨name, alias?⟩ := imported
  cases alias? with
  | none => exact allClause_letters name
  | some other =>
    have between : AllClause " as ".toList := by decide
    exact ((allClause_letters name).append between).append (allClause_letters other)

theorem allClause_names (imported : ImportedName) (others : List ImportedName) :
    AllClause (namesText imported others) := by
  induction others generalizing imported with
  | nil =>
    have close : AllClause " \x7d".toList := by decide
    exact (allClause_imported imported).append close
  | cons next others inductionHypothesis =>
    have comma : AllClause ", ".toList := by decide
    exact ((allClause_imported imported).append comma).append (inductionHypothesis next)

theorem letters_ne_nil (name : Identifier) : name.letters ≠ [] := by
  intro empty
  have starts := name.starts
  rw [empty] at starts
  cases starts

/-- In front of the word `from`, a clause has characters of clauses only. -/
theorem clause_split (clause : ImportClause) :
    clause.text = [] ∨ ∃ names, names ≠ [] ∧ AllClause names ∧ clause.text = names ++ " from ".toList := by
  have star : AllClause "* as ".toList := by decide
  have brace : AllClause "\x7b ".toList := by decide
  have commaBrace : AllClause ", \x7b ".toList := by decide
  have commaStar : AllClause ", * as ".toList := by decide
  cases clause with
  | bare => exact .inl rfl
  | default name => exact .inr ⟨_, letters_ne_nil name, allClause_letters name, rfl⟩
  | all name =>
    exact .inr ⟨_, List.append_ne_nil_of_right_ne_nil _ (letters_ne_nil name),
      star.append (allClause_letters name), rfl⟩
  | names first others =>
    exact .inr ⟨_, List.append_ne_nil_of_left_ne_nil (by decide) _,
      brace.append (allClause_names first others), rfl⟩
  | defaultAndNames name first others =>
    exact .inr ⟨_, List.append_ne_nil_of_left_ne_nil
      (List.append_ne_nil_of_left_ne_nil (letters_ne_nil name) _) _,
      ((allClause_letters name).append commaBrace).append (allClause_names first others), rfl⟩
  | defaultAndAll name whole =>
    exact .inr ⟨_, List.append_ne_nil_of_right_ne_nil _ (letters_ne_nil whole),
      ((allClause_letters name).append commaStar).append (allClause_letters whole), rfl⟩

theorem isGap_clause (clause : ImportClause) : IsGap (' ' :: clause.text) := by
  have isSpace : IsBlankRun [' '] := by decide
  rcases clause_split clause with bare | ⟨names, nonempty, allClause, split⟩
  · rw [bare]
    exact .blank isSpace
  · have regrouped : ' ' :: clause.text = ' ' :: names ++ ' ' :: "from".toList ++ [' '] := by
      rw [split]
      simp
    rw [regrouped]
    exact .clause (by decide) nonempty allClause (by decide) isSpace

/-! ## The search on a plain declaration -/

/-- The line of a declaration up to the closing quotation mark. -/
def quotedText (declaration : PlainImport) : List Char :=
  "import".toList ++ (' ' :: declaration.clause.text) ++
    declaration.quote :: declaration.specifier.text ++ [declaration.quote]

theorem text_eq_quotedText (declaration : PlainImport) :
    declaration.text = quotedText declaration ++ [';', '\n'] := by
  have word : "import ".toList = "import".toList ++ [' '] := rfl
  have stop : ";\n".toList = [';', '\n'] := rfl
  unfold PlainImport.text quotedText
  simp only [word, stop, List.append_assoc, List.cons_append, List.nil_append]

theorem declares_quotedText (declaration : PlainImport) :
    Declares (quotedText declaration) [] (' ' :: declaration.clause.text) declaration.quote
      declaration.specifier.text declaration.quote [] where
  split := rfl
  indented := by simp
  unquotedGap := (isGap_clause declaration.clause).unquoted
  opens := by rcases declaration.quote_eq with same | same <;> rw [same] <;> decide
  unquotedSpecifier := by
    intro c inside
    have isChar := declaration.specifier.plain c inside
    simp only [isSpecifierChar, Bool.and_eq_true, bne_iff_ne, ne_eq] at isChar
    simp [isQuote, isChar]
  closes := by rcases declaration.quote_eq with same | same <;> rw [same] <;> decide

/-- Behind an accepted declaration the search goes on inside of a line. -/
theorem scan_of_declares {run indent gap specifier : List Char} {opening closing : Char}
    (declares : Declares run indent gap opening specifier closing []) (isGap : IsGap gap)
    (nonempty : specifier ≠ []) (rest : List Char) :
    declaration.scan 0 true (run ++ rest) = ⟨run, specifier⟩ :: declaration.scan 0 false rest := by
  have matched : declaration.matchAt? true (run ++ rest) = some ⟨run, specifier⟩ := by
    rw [matchAt?_declaration]
    unfold accepted?
    rw [candidate?_of_declares (declares.append rest)]
    simp [nonempty, isGap, Option.filter]
  have notBreak : (closing == '\n') = false := by
    have closes := declares.closes
    rw [beq_eq_false_iff_ne]
    rintro rfl
    exact absurd closes (by decide)
  have inside : freshBehind true run = false := by
    rw [declares.split, freshBehind_append]
    exact notBreak
  -- The first character is where the match is found, and the others are passed over.
  cases run with
  | nil => cases inside
  | cons c others =>
    rw [List.cons_append] at matched ⊢
    rw [Pattern.scan, matched]
    dsimp only
    rw [List.length_cons, Nat.add_sub_cancel, Pattern.scan_past]
    exact congrArg (_ :: declaration.scan 0 · rest) inside

theorem scan_inside (c : Char) (rest : List Char) :
    declaration.scan 0 false (c :: rest) = declaration.scan 0 (c == '\n') rest := by
  rw [Pattern.scan, matchAt?_declaration_inside]

/-- The search finds the specifiers of a module of plain declarations, in their order. -/
theorem specifiersByForm_plain (declarations : List PlainImport) :
    specifiersByForm (moduleText declarations) =
      declarations.map fun declaration => declaration.specifier.text := by
  unfold specifiersByForm Pattern.findAll
  -- Behind the quotation mark there is nothing to find up to the line feed, where the next declaration
  -- stands at the start of a line again.
  induction declarations with
  | nil => rfl
  | cons first others inductionHypothesis =>
    have split : moduleText (first :: others) =
        quotedText first ++ (';' :: '\n' :: moduleText others) := by
      unfold moduleText
      rw [List.flatMap_cons, text_eq_quotedText, List.append_assoc]
      rfl
    rw [split, scan_of_declares (declares_quotedText first) (isGap_clause first.clause)
      first.specifier.nonempty, scan_inside, List.map_cons, List.map_cons]
    have semicolon : (';' == '\n') = false := rfl
    rw [semicolon, scan_inside]
    exact congrArg (first.specifier.text :: ·) inductionHypothesis

/-- The parser and the search find the same specifiers in a module of plain declarations, so that the
suffix of the source does not matter. -/
theorem specifiers_plain (declarations : List PlainImport) :
    importSources (moduleText declarations) =
        .ok (declarations.map fun declaration => declaration.specifier.text) ∧
      specifiersByForm (moduleText declarations) =
        (declarations.map fun declaration => declaration.specifier.text) ∧
      ∀ suffix, specifiers suffix (moduleText declarations) =
        .ok (declarations.map fun declaration => declaration.specifier.text) := by
  have parsed := importSources_plain declarations
  have searched := specifiersByForm_plain declarations
  refine ⟨parsed, searched, fun suffix => ?_⟩
  unfold specifiers
  rw [parsed, searched]
  split <;> rfl

example : (PlainImport.mk (.defaultAndNames ⟨"type".toList, rfl, List.all_eq_true.mp rfl, by decide⟩
    ⟨⟨"from".toList, rfl, List.all_eq_true.mp rfl, by decide⟩,
      some ⟨"as".toList, rfl, List.all_eq_true.mp rfl, by decide⟩⟩ [])
    false ⟨"x".toList, by decide, List.all_eq_true.mp rfl⟩).text =
      "import type, \x7b from as as \x7d from 'x';\n".toList := by
  decide

end ProjectGauge.Imports
