import ProjectGauge.Proofs.Imports.Agreement
import ProjectGauge.Proofs.Usage.Reference

/-!
# Imports are references

A source in TypeScript is searched twice: for import declarations, and for references to each package.  Where
it consists of declarations with a clause, one on each line, the two searches find the same.

* `ClauseImport` is such a declaration, `IsSource` a text of them.
* `specifiers_clauses` and `scans_fromClause` are the two searches.
* `references_eq_specifiers`: there are as many references to a package as specifiers that name it.
-/

namespace ProjectGauge.Imports

open Text Usage

/-! ## Declarations with a clause -/

/-- A declaration `import C from 'S';`.  In the clause there are characters that are recognised in a clause
only: those of words, braces, stars, commas, dollar signs and blanks. -/
structure ClauseImport where
  clause : List Char
  quote : Char
  specifier : List Char
  someClause : clause ≠ []
  allClause : AllClause clause
  isQuote : isQuote quote = true
  nonempty : specifier ≠ []
  unquoted : ∀ c ∈ specifier, Usage.isQuote c = false

namespace ClauseImport

/-- The line up to the word `from`. -/
def start (line : ClauseImport) : List Char :=
  "import ".toList ++ line.clause ++ [' ']

/-- The line up to the opening quotation mark. -/
def front (line : ClauseImport) : List Char :=
  line.start ++ "from ".toList

def text (line : ClauseImport) : List Char :=
  line.front ++ line.quote :: (line.specifier ++ [line.quote, ';'])

end ClauseImport

/-- A text that consists of some declarations, one on each line.  The last line may lack its line feed. -/
inductive IsSource : List ClauseImport → List Char → Prop where
  | nil : IsSource [] []
  | last (line : ClauseImport) : IsSource [line] line.text
  | cons (line : ClauseImport) {lines : List ClauseImport} {rest : List Char} (behind : IsSource lines rest) :
    IsSource (line :: lines) (line.text ++ '\n' :: rest)

variable {line : ClauseImport} {lines : List ClauseImport} {source : List Char}

theorem allClause_front (line : ClauseImport) : AllClause line.front := by
  have word : AllClause "import ".toList := by decide
  have space : AllClause [' '] := by decide
  have clauseWord : AllClause "from ".toList := by decide
  exact ((word.append line.allClause).append space).append clauseWord

theorem AllClause.unquoted {text : List Char} (allClause : AllClause text) :
    ∀ c ∈ text, Usage.isQuote c = false :=
  fun c inside => not_isQuote_of_isClauseChar (allClause c inside)

theorem unquoted_of_all {text : List Char} (all : (text.all fun c => !Usage.isQuote c) = true) :
    ∀ c ∈ text, Usage.isQuote c = false := by
  simpa using all

/-! ## The search for declarations -/

/-- The declaration up to the closing quotation mark. -/
def quotedClause (line : ClauseImport) : List Char :=
  "import".toList ++ (' ' :: line.clause ++ " from ".toList) ++ line.quote :: line.specifier ++ [line.quote]

theorem text_eq_quotedClause (line : ClauseImport) : line.text = quotedClause line ++ [';'] := by
  have word : "import ".toList = "import".toList ++ [' '] := rfl
  have clauseWord : " from ".toList = ' ' :: "from ".toList := rfl
  unfold ClauseImport.text ClauseImport.front ClauseImport.start quotedClause
  rw [word, clauseWord]
  simp only [List.append_assoc, List.cons_append, List.nil_append]

theorem isGap_clauseImport (line : ClauseImport) : IsGap (' ' :: line.clause ++ " from ".toList) := by
  have regrouped : ' ' :: line.clause ++ " from ".toList =
      ' ' :: line.clause ++ ' ' :: "from".toList ++ [' '] := by simp
  have isSpace : IsBlankRun [' '] := by decide
  rw [regrouped]
  exact .clause (by decide) line.someClause line.allClause (by decide) isSpace

theorem declares_quotedClause (line : ClauseImport) :
    Declares (quotedClause line) [] (' ' :: line.clause ++ " from ".toList) line.quote line.specifier
      line.quote [] where
  split := rfl
  indented := by simp
  unquotedGap := (isGap_clauseImport line).unquoted
  opens := line.isQuote
  unquotedSpecifier := line.unquoted
  closes := line.isQuote

theorem scan_clauseImport (line : ClauseImport) (rest : List Char) :
    declaration.scan 0 true (line.text ++ rest) =
      ⟨quotedClause line, line.specifier⟩ :: declaration.scan 0 false rest := by
  rw [text_eq_quotedClause, List.append_assoc,
    scan_of_declares (declares_quotedClause line) (isGap_clauseImport line) line.nonempty,
    List.singleton_append, scan_inside]
  rfl

/-- The search for declarations finds all specifiers in their order. -/
theorem specifiers_clauses (isSource : IsSource lines source) :
    specifiers ".ts" source = .ok (lines.map ClauseImport.specifier) := by
  have searched : specifiersByForm source = lines.map ClauseImport.specifier := by
    unfold specifiersByForm Pattern.findAll
    induction isSource with
    | nil => rfl
    | last line =>
      have scanned := scan_clauseImport line []
      rw [List.append_nil] at scanned
      rw [scanned]
      rfl
    | cons line behind inductionHypothesis =>
      rw [scan_clauseImport, scan_inside, List.map_cons, List.map_cons]
      exact congrArg (line.specifier :: ·) inductionHypothesis
  rw [← searched]
  rfl

/-! ## Where a reference may stand -/

/-- A character of the name of a package. -/
def isPackageChar (c : Char) : Bool :=
  isWord c || c == '@' || c == '.' || c == '-' || c == '/'

/-- A specifier names a package, or a path inside it. -/
def Names (package specifier : List Char) : Prop :=
  specifier = package ∨ ∃ path, path ≠ [] ∧ specifier = package ++ '/' :: path

theorem names_iff {package specifier : List Char} :
    Names package specifier ↔
      specifier = package ∨ package ++ ['/'] <+: specifier ∧ package.length + 1 < specifier.length := by
  refine or_congr_right ⟨?_, ?_⟩
  · rintro ⟨path, nonempty, rfl⟩
    have longer := List.length_pos_iff.mpr nonempty
    exact ⟨⟨path, by simp⟩, by simp; omega⟩
  · rintro ⟨⟨path, rfl⟩, longer⟩
    refine ⟨path, ?_, by simp⟩
    rintro rfl
    simp at longer

instance (package specifier : List Char) : Decidable (Names package specifier) :=
  decidable_of_iff _ names_iff.symm

theorem names_iff_isTail {package specifier : List Char} (unquoted : ∀ c ∈ specifier, isQuote c = false) :
    Names package specifier ↔ ∃ tail, IsTail tail ∧ specifier = package ++ tail := by
  constructor
  · rintro (rfl | ⟨path, nonempty, rfl⟩)
    · exact ⟨[], .nothing, by simp⟩
    · exact ⟨_, .path nonempty fun c inside => unquoted c (by simp [inside]), rfl⟩
  · rintro ⟨tail, isTail, rfl⟩
    cases isTail with
    | nothing => exact .inl (by simp)
    | path nonempty => exact .inr ⟨_, nonempty, rfl⟩

theorem unquoted_of_isPackageChar {c : Char} (isChar : isPackageChar c = true) : isQuote c = false := by
  by_contra quoted
  rw [Bool.not_eq_false, isQuote_iff] at quoted
  rcases quoted with rfl | rfl
  · exact absurd isChar (by decide)
  · exact absurd isChar (by decide)

variable {package opener quoted closer before mark rest : List Char} {quote : Char}

/-- The first quotation mark behind the place where a reference stands is the one in front of the name. -/
theorem reference_at_quote (isQuoted : IsQuoted package quoted)
    (openerUnquoted : ∀ c ∈ opener, isQuote c = false) (markUnquoted : ∀ c ∈ mark, isQuote c = false)
    (quotes : isQuote quote = true) (stands : opener ++ (quoted ++ closer) <+: mark ++ quote :: rest) :
    opener = mark ∧ ∃ tail closing behind, IsTail tail ∧ isQuote closing = true ∧
      rest = package ++ (tail ++ closing :: behind) := by
  obtain ⟨behind, same⟩ := stands
  obtain @⟨opening, closing, tail, opens, isTail, closes⟩ := isQuoted
  simp only [List.append_assoc, List.cons_append, List.nil_append] at same
  obtain ⟨rfl, rfl, rfl⟩ := run_unique (fun c => !isQuote c)
    (fun c inside => by simp [openerUnquoted c inside]) (by simp [opens])
    (fun c inside => by simp [markUnquoted c inside]) (by simp [quotes]) same
  exact ⟨rfl, tail, closing, closer ++ behind, isTail, closes, rfl⟩

/-- Where a reference stands that starts in a declaration, it is the clause in front of the specifier, and
the specifier names the package. -/
theorem reference_in_line (named : package ≠ []) (plain : ∀ c ∈ package, isPackageChar c = true)
    (isQuoted : IsQuoted package quoted) {first : Char} {more : List Char} (inLine : first ≠ ';' ∧ first ≠ '\n')
    (openerUnquoted : ∀ c ∈ first :: more, isQuote c = false) {left lineEnd : List Char}
    (isEnd : ∀ c ∈ lineEnd, c = '\n') (nonempty : left ≠ [])
    (split : line.text ++ lineEnd = before ++ left)
    (stands : first :: more ++ (quoted ++ closer) <+: left ++ rest) :
    line.front = before ++ first :: more ∧ Names package line.specifier := by
  have firstUnquoted : isQuote first = false := openerUnquoted first List.mem_cons_self
  -- The place is in front of the specifier, in it, or behind it.
  have whole : line.front ++ line.quote :: (line.specifier ++ line.quote :: ';' :: lineEnd) =
      before ++ left := by
    rw [← split]
    simp [ClauseImport.text]
  rcases List.append_eq_append_iff.mp whole with ⟨behind, -, leftIs⟩ | ⟨mark, frontIs, rfl⟩
  · cases behind with
    | nil =>
      rw [List.nil_append] at leftIs
      subst leftIs
      obtain ⟨rfl, -⟩ := List.cons_prefix_cons.mp stands
      rw [line.isQuote] at firstUnquoted
      cases firstUnquoted
    | cons opening behind =>
      obtain ⟨-, leftIs⟩ := List.cons.inj leftIs
      rcases List.append_eq_append_iff.mp leftIs with ⟨beyond, -, leftIs⟩ | ⟨mark, specifierIs, rfl⟩
      · obtain ⟨c, left, rfl⟩ := List.exists_cons_of_ne_nil nonempty
        obtain ⟨rfl, -⟩ := List.cons_prefix_cons.mp stands
        have inside : first ∈ line.quote :: ';' :: lineEnd := by simp [leftIs]
        rcases List.mem_cons.mp inside with rfl | inside
        · rw [line.isQuote] at firstUnquoted
          cases firstUnquoted
        · rcases List.mem_cons.mp inside with rfl | inside
          · exact absurd rfl inLine.1
          · exact absurd (isEnd first inside) inLine.2
      · -- Behind the closing quotation mark stands a semicolon, with which no package starts.
        have markUnquoted : ∀ c ∈ mark, isQuote c = false :=
          fun c inside => line.unquoted c (by simp [specifierIs, inside])
        rw [List.append_assoc] at stands
        obtain ⟨-, tail, closing, further, -, -, same⟩ :=
          reference_at_quote isQuoted openerUnquoted markUnquoted line.isQuote stands
        obtain ⟨c, letters, rfl⟩ := List.exists_cons_of_ne_nil named
        have semicolon : isPackageChar ';' = true := (List.cons.inj same).1 ▸ plain c List.mem_cons_self
        exact absurd semicolon (by decide)
  · have markUnquoted : ∀ c ∈ mark, isQuote c = false :=
      fun c inside => (allClause_front line).unquoted c (by simp [frontIs, inside])
    rw [List.append_assoc] at stands
    obtain ⟨rfl, tail, closing, further, isTail, closes, same⟩ :=
      reference_at_quote isQuoted openerUnquoted markUnquoted line.isQuote stands
    refine ⟨frontIs, (names_iff_isTail line.unquoted).mpr ⟨tail, isTail, ?_⟩⟩
    -- The quotation mark behind the tail closes the specifier.
    have packageUnquoted : ∀ c ∈ package ++ tail, isQuote c = false := by
      intro c inside
      rcases List.mem_append.mp inside with inPackage | inTail
      · exact unquoted_of_isPackageChar (plain c inPackage)
      · exact isTail.unquoted c inTail
    have closed : line.specifier ++ line.quote :: (';' :: lineEnd ++ rest) =
        (package ++ tail) ++ closing :: further := by
      simpa using same
    exact (run_unique (fun c => !isQuote c) (by simpa using line.unquoted) (by simp [line.isQuote])
      (by simpa using packageUnquoted) (by simp [closes]) closed).1

/-! ## The search for references -/

/-- No call of `require` stands in a declaration. -/
theorem scans_requireCall (named : package ≠ []) (plain : ∀ c ∈ package, isPackageChar c = true)
    (isSource : IsSource lines source) : Scans (IsRequireCall package) source [] := by
  have inLine (line : ClauseImport) (lineEnd rest : List Char) (isEnd : ∀ c ∈ lineEnd, c = '\n')
      (behind : Scans (IsRequireCall package) rest []) :
      Scans (IsRequireCall package) (line.text ++ lineEnd ++ rest) [] := by
    refine Scans.pass (fun before left split nonempty run isCall stands => ?_) behind
    obtain @⟨quoted, isQuoted⟩ := isCall
    have call : 'r' :: "equire(".toList ++ (quoted ++ [')']) <+: left ++ rest := stands
    obtain ⟨frontIs, -⟩ :=
      reference_in_line named plain isQuoted (by decide) (unquoted_of_all rfl) isEnd nonempty split call
    -- The clause would have a parenthesis.
    have parenthesis : '(' ∈ line.front := by
      rw [frontIs]
      exact List.mem_append_right _ (by decide)
    exact absurd (allClause_front line '(' parenthesis) (by decide)
  induction isSource with
  | nil => exact .done
  | last line =>
    have scanned := inLine line [] [] nofun .done
    rwa [List.append_nil, List.append_nil] at scanned
  | cons line behind inductionHypothesis =>
    have scanned := inLine line ['\n'] _ (by simp) inductionHypothesis
    rwa [List.append_assoc] at scanned

/-- A `from` clause that starts in a declaration is the one in front of the specifier. -/
theorem fromClause_in_line (named : package ≠ []) (plain : ∀ c ∈ package, isPackageChar c = true)
    {run left lineEnd : List Char} (isClause : IsFromClause package run) (isEnd : ∀ c ∈ lineEnd, c = '\n')
    (nonempty : left ≠ []) (split : line.text ++ lineEnd = before ++ left) (stands : run <+: left ++ rest) :
    before = line.start ∧ Names package line.specifier := by
  obtain @⟨blanks, quoted, -, allBlank, isQuoted⟩ := isClause
  have unquoted : ∀ c ∈ 'f' :: ("rom".toList ++ blanks), isQuote c = false := by
    intro c inside
    rw [← List.cons_append, List.mem_append] at inside
    rcases inside with inWord | inBlanks
    · exact unquoted_of_all rfl c inWord
    · exact not_isQuote_of_isClauseChar (isClauseChar_of_isBlank (allBlank c inBlanks))
  have clause : 'f' :: ("rom".toList ++ blanks) ++ (quoted ++ []) <+: left ++ rest := by
    rw [List.append_nil, ← List.cons_append, List.append_assoc]
    exact stands
  obtain ⟨frontIs, isNamed⟩ :=
    reference_in_line named plain isQuoted (by decide) unquoted isEnd nonempty split clause
  refine ⟨?_, isNamed⟩
  -- Both texts end with the word and blanks, and so they agree in front of the word.
  have same : (line.start ++ "fro".toList) ++ ['m'] ++ [' '] = (before ++ "fro".toList) ++ ['m'] ++ blanks := by
    simpa [ClauseImport.front] using frontIs
  have words := congrArg (List.rdropWhile isBlank) same
  rw [(rdropWhile_behind isBlank _ 'm' (by decide) (by simp; decide)).1,
    (rdropWhile_behind isBlank _ 'm' (by decide) allBlank).1] at words
  exact (List.append_cancel_right (List.append_cancel_right words)).symm

/-- The text of a declaration that refers to a package. -/
def ClauseImport.reference (line : ClauseImport) : List Char :=
  "from ".toList ++ line.quote :: (line.specifier ++ [line.quote])

theorem text_eq_reference (line : ClauseImport) : line.text = line.start ++ (line.reference ++ [';']) := by
  simp [ClauseImport.text, ClauseImport.front, ClauseImport.reference]

theorem isFromClause_reference (isNamed : Names package line.specifier) :
    IsFromClause package line.reference := by
  obtain ⟨tail, isTail, same⟩ := (names_iff_isTail line.unquoted).mp isNamed
  have regrouped : line.reference =
      "from".toList ++ ([' '] ++ (line.quote :: (package ++ (tail ++ [line.quote])))) := by
    simp [ClauseImport.reference, same]
  rw [regrouped]
  exact .intro (by decide) (List.all_eq_true.mp rfl) (.intro line.isQuote isTail line.isQuote)

/-- The search for `from` clauses finds those of the declarations whose specifier names the package. -/
theorem scans_fromClause (named : package ≠ []) (plain : ∀ c ∈ package, isPackageChar c = true)
    (isSource : IsSource lines source) : Scans (IsFromClause package) source
      ((lines.filter fun line => Names package line.specifier).map ClauseImport.reference) := by
  have inLine (line : ClauseImport) (lineEnd rest : List Char) (others : List ClauseImport)
      (isEnd : ∀ c ∈ lineEnd, c = '\n') (behind : Scans (IsFromClause package) rest
        ((others.filter fun line => Names package line.specifier).map ClauseImport.reference)) :
      Scans (IsFromClause package) (line.text ++ lineEnd ++ rest)
        (((line :: others).filter fun line => Names package line.specifier).map ClauseImport.reference) := by
    by_cases isNamed : Names package line.specifier
    · -- Up to the clause there is nothing, and behind it neither.
      have regrouped : line.text ++ lineEnd ++ rest =
          line.start ++ (line.reference ++ (';' :: lineEnd ++ rest)) := by
        simp [text_eq_reference]
      rw [regrouped, List.filter_cons_of_pos (by simpa using isNamed), List.map_cons]
      refine Scans.pass (fun before left split nonempty run isClause stands => ?_)
        (.hit (isFromClause_reference isNamed)
          (Scans.pass (fun before left split nonempty run isClause stands => ?_) behind))
      · have whole : line.text ++ lineEnd = before ++ (left ++ (line.reference ++ ';' :: lineEnd)) := by
          simp [text_eq_reference, split]
        obtain ⟨rfl, -⟩ := fromClause_in_line named plain isClause isEnd
          (List.append_ne_nil_of_left_ne_nil nonempty _) whole (by simpa using stands)
        exact nonempty (List.append_cancel_left (split.symm.trans (List.append_nil _).symm))
      · have whole : line.text ++ lineEnd = (line.start ++ (line.reference ++ before)) ++ left := by
          simp [text_eq_reference, split]
        obtain ⟨same, -⟩ := fromClause_in_line named plain isClause isEnd nonempty whole stands
        simp [ClauseImport.reference] at same
    · rw [List.filter_cons_of_neg (by simpa using isNamed)]
      refine Scans.pass (fun before left split nonempty run isClause stands => ?_) behind
      exact isNamed (fromClause_in_line named plain isClause isEnd nonempty split stands).2
  induction isSource with
  | nil => exact .done
  | last line =>
    have scanned := inLine line [] [] [] nofun .done
    rwa [List.append_nil, List.append_nil] at scanned
  | @cons line lines rest behind inductionHypothesis =>
    have scanned := inLine line ['\n'] rest lines (by simp) inductionHypothesis
    rwa [List.append_assoc] at scanned

/-- In a source of declarations with clauses there are as many references to a package as specifiers that name
it. -/
theorem references_eq_specifiers (isSource : IsSource lines source) (named : package ≠ [])
    (plain : ∀ c ∈ package, isPackageChar c = true) :
    ∃ found, specifiers ".ts" source = .ok found ∧
      countReferences package source = found.countP fun specifier => Names package specifier := by
  have calls := ((describes_requireCall package).finds source).scanned [] |>.mp
    (scans_requireCall named plain isSource)
  have clauses := ((describes_fromClause package).finds source).scanned _ |>.mp
    (scans_fromClause named plain isSource)
  refine ⟨_, specifiers_clauses isSource, ?_⟩
  have noCalls : requireReferences package source = [] := calls.symm
  have fromClauses : fromReferences package source = _ := clauses.symm
  unfold countReferences
  rw [noCalls, fromClauses, List.length_nil, Nat.zero_add, List.length_map, List.countP_map,
    List.countP_eq_length_filter]
  rfl

/-- In the clause there are names that look like the word in front of a specifier, and in the specifier there
is the start of a call. -/
def trickyImport : ClauseImport where
  clause := "type, \x7b from \x7d, from".toList
  quote := '\x22'
  specifier := "x/require(".toList
  someClause := by decide
  allClause := by decide
  isQuote := rfl
  nonempty := by decide
  unquoted := unquoted_of_all rfl

/-- The specifier only starts like the package. -/
def nearImport : ClauseImport where
  clause := "* as $x".toList
  quote := '\x27'
  specifier := "xy".toList
  someClause := by decide
  allClause := by decide
  isQuote := rfl
  nonempty := by decide
  unquoted := unquoted_of_all rfl

theorem references_eq_specifiers_sample :
    ∃ source found, IsSource [trickyImport, nearImport, trickyImport] source ∧
      specifiers ".ts" source = .ok found ∧
      countReferences ['x'] source = 2 ∧
      found.countP (fun specifier => Names ['x'] specifier) = 2 := by
  have isSource : IsSource [trickyImport, nearImport, trickyImport] _ :=
    .cons trickyImport (.cons nearImport (.last trickyImport))
  have named : ['x'] ≠ [] := by decide
  have plain : ∀ c ∈ ['x'], isPackageChar c = true := List.all_eq_true.mp rfl
  obtain ⟨found, searched, same⟩ := references_eq_specifiers isSource named plain
  have two : found.countP (fun specifier => Names ['x'] specifier) = 2 := by
    rw [specifiers_clauses isSource] at searched
    cases searched
    decide
  exact ⟨_, found, isSource, searched, same.trans two, two⟩

/-- The mark of an accented letter belongs to an identifier, but it is no character of a clause.  The
declaration is passed over, and the reference is found. -/
theorem specifiers_misses_accent :
    isIdentifierStart 'a' = true ∧ isIdentifierPart '\u0301' = true ∧
      specifiers ".ts" "import a\u0301 from 'x';".toList = .ok [] ∧
      countReferences ['x'] "import a\u0301 from 'x';".toList = 1 := by
  decide +kernel

end ProjectGauge.Imports
