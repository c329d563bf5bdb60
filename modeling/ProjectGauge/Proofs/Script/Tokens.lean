import ProjectGauge.Proofs.Script.Run
import ProjectGauge.Proofs.Text.Surrogate

/-!
# From texts to tokens

The parser looks at a text through the scanner only.  A text that yields certain tokens stands for them, so
that what a parser does on it can be said in terms of tokens.

* `Yields` lists the tokens that a text starts with, and `Ahead` those that a state of the parser has ahead.
* `scans_word`, `scans_text` and `scans_sign` scan the tokens of plain declarations.
* `Runs` says what a parser makes of the tokens ahead; `Runs.bind` puts two parsers together.
-/

namespace ProjectGauge.Script

/-! ## Space -/

/-- Behind the space at the front of a text stands the given text. -/
def Leads (text start : List Char) : Prop :=
  ∀ html opening line, ∃ last, skip html (.blank opening) line text = (start, last)

theorem leads_nil : Leads [] [] :=
  fun _ _ line => ⟨line, rfl⟩

theorem Leads.space {text start : List Char} (leads : Leads text start) : Leads (' ' :: text) start :=
  fun html opening line => leads html opening line

theorem Leads.lineFeed {text start : List Char} (leads : Leads text start) : Leads ('\n' :: text) start :=
  fun html _ line => leads html true (line + linesEnded '\n' text)

/-- A character that is neither space nor the start of a remark. -/
def startsToken (c : Char) : Bool :=
  !isSpace c && !isLineBreak c && c != '/' && c != '-' && c != '<'

theorem leads_self {c : Char} (starts : startsToken c = true) (rest : List Char) :
    Leads (c :: rest) (c :: rest) := by
  intro html opening line
  unfold startsToken at starts
  simp only [Bool.and_eq_true, Bool.not_eq_true', bne_iff_ne, ne_eq] at starts
  obtain ⟨⟨⟨⟨notSpace, notBreak⟩, notSlash⟩, notDash⟩, notAngle⟩ := starts
  have noRemark : opensLineRemark html opening (c :: rest) = false := by
    simp [opensLineRemark, List.isPrefixOf, Ne.symm notSlash, Ne.symm notDash, Ne.symm notAngle]
  refine ⟨line, ?_⟩
  -- No case but that of another character is left, and in it nothing is skipped.
  unfold skip
  split
  · rename_i isEmpty
    cases isEmpty
  · rename_i kind isSlash
    exact absurd (List.cons.inj isSlash).1 notSlash
  · rename_i kind same
    cases kind
    cases same
    rw [notSpace, notBreak, noRemark]
    rfl
  · rename_i kind _
    cases kind
  · rename_i kind _
    cases kind
  · rename_i kind _
    cases kind

/-! ## Tokens -/

/-- A token starts at the front of a text, with the given rest behind it.  An open substitution changes what
a closing brace is, so there is none. -/
def TokenAt (text : List Char) (token : Token) (rest : List Char) : Prop :=
  ∀ scanner : Scanner, scanner.place.rest = text → .substitution ∉ scanner.braces →
    ∃ after, scanner.token = some (token, after) ∧ after.place.rest = rest ∧
      .substitution ∉ after.braces

/-- Behind the space at its front a text has a token, with the given rest behind it. -/
def Scans (text : List Char) (token : Token) (rest : List Char) : Prop :=
  ∃ start, Leads text start ∧ TokenAt start token rest

theorem Scans.skipSpace {text rest : List Char} {token : Token} (scans : Scans text token rest)
    (html : Bool) (scanner : Scanner) (isText : scanner.place.rest = text)
    (plain : .substitution ∉ scanner.braces) :
    ∃ after, (scanner.skipSpace html).token = some (token, after) ∧ after.place.rest = rest ∧
      .substitution ∉ after.braces := by
  obtain ⟨start, leads, tokenAt⟩ := scans
  obtain ⟨last, skipped⟩ := leads html scanner.place.first scanner.place.line
  apply tokenAt
  · unfold Scanner.skipSpace
    rw [isText, skipped]
  · exact plain

theorem Scans.space {text rest : List Char} {token : Token} (scans : Scans text token rest) :
    Scans (' ' :: text) token rest := by
  obtain ⟨start, leads, tokenAt⟩ := scans
  exact ⟨start, leads.space, tokenAt⟩

theorem Scans.lineFeed {text rest : List Char} {token : Token} (scans : Scans text token rest) :
    Scans ('\n' :: text) token rest := by
  obtain ⟨start, leads, tokenAt⟩ := scans
  exact ⟨start, leads.lineFeed, tokenAt⟩

theorem scans_finish : Scans [] .finish [] := by
  refine ⟨[], leads_nil, ?_⟩
  intro scanner isText plain
  unfold Scanner.token
  rw [isText]
  exact ⟨scanner, rfl, isText, plain⟩

/-- A word goes on as long as characters of words follow. -/
theorem scans_word {first : Char} {others rest : List Char}
    (starts : Text.isIdentifierStart first = true) (token : startsToken first = true)
    (continues : ∀ c ∈ first :: others, Text.isIdentifierPart c = true)
    (noEscape : '\\' ∉ first :: others)
    (stops : ∀ c ∈ rest.head?, Text.isIdentifierPart c = false) :
    Scans (first :: others ++ rest) (.ofWord (String.ofList (first :: others))) rest := by
  refine ⟨first :: (others ++ rest), leads_self token _, ?_⟩
  intro scanner isText plain
  have ends : rest.takeWhile Text.isIdentifierPart = [] ∧ rest.dropWhile Text.isIdentifierPart = rest := by
    cases rest with
    | nil => exact ⟨rfl, rfl⟩
    | cons c rest =>
      have stop := stops c rfl
      simp [stop]
  have read : readWord (first :: others ++ rest) = some (first :: others, rest) := by
    unfold readWord
    rw [List.takeWhile_append_of_pos continues, List.dropWhile_append_of_pos continues, ends.1, ends.2,
      List.append_nil]
    dsimp only
    rw [if_neg (by simpa using noEscape)]
  rw [List.cons_append] at read
  unfold Scanner.token
  rw [isText]
  dsimp only
  rw [if_pos starts, read]
  exact ⟨_, rfl, rfl, plain⟩

/-- A character that stands for itself between quotation marks. -/
def IsPlain (quote c : Char) : Prop :=
  c ≠ quote ∧ c ≠ '\\' ∧ isLineBreak c = false

theorem readText_plain {quote : Char} {text : List Char} (isPlain : ∀ c ∈ text, IsPlain quote c)
    (lines : Nat) (codes : List Nat) (rest : List Char) :
    readText quote 0 lines codes (text ++ quote :: rest) =
      some (Text.joinPairs (codes.reverse ++ text.map Char.toNat), rest, lines) := by
  induction text generalizing codes with
  | nil => simp [readText]
  | cons c text inductionHypothesis =>
    obtain ⟨notQuote, notEscape, notBreak⟩ := isPlain c List.mem_cons_self
    have others := inductionHypothesis (fun other inside => isPlain other (List.mem_cons_of_mem _ inside))
      (c.toNat :: codes)
    rw [List.cons_append, readText, if_neg (by simpa using notQuote), if_neg (by simpa using notEscape),
      notBreak, if_neg (by simp), others]
    simp

/-- A text between two equal quotation marks. -/
theorem scans_text {quote : Char} {text : List Char} (rest : List Char)
    (isQuote : quote = '\x22' ∨ quote = '\x27') (isPlain : ∀ c ∈ text, IsPlain quote c) :
    Scans (quote :: text ++ quote :: rest) (.text text) rest := by
  have token : startsToken quote = true := by rcases isQuote with rfl | rfl <;> decide
  have notStart : ¬ Text.isIdentifierStart quote = true := by rcases isQuote with rfl | rfl <;> decide
  have quotes : (quote == '\x22' || quote == '\x27') = true := by
    rcases isQuote with rfl | rfl <;> decide
  refine ⟨quote :: (text ++ quote :: rest), leads_self token _, ?_⟩
  intro scanner isText plain
  unfold Scanner.token
  rw [isText]
  dsimp only
  rw [if_neg notStart, if_pos quotes, readText_plain isPlain, List.reverse_nil, List.nil_append,
    Text.joinPairs_toNat]
  exact ⟨_, rfl, rfl, plain⟩

/-- A character at which a sign is read. -/
def startsSign (c : Char) : Bool :=
  startsToken c && !Text.isIdentifierStart c && c != '\x22' && c != '\x27' && !c.isDigit && c != '.' &&
    c != '\x60'

theorem scans_sign {c : Char} {text rest : List Char} {symbol : String} (starts : startsSign c = true)
    (read : readSign (c :: text) = some (symbol, rest)) : Scans (c :: text) (.sign symbol) rest := by
  unfold startsSign at starts
  simp only [Bool.and_eq_true, Bool.not_eq_true', bne_iff_ne, ne_eq] at starts
  obtain ⟨⟨⟨⟨⟨⟨token, notStart⟩, notDouble⟩, notSingle⟩, notDigit⟩, notPoint⟩, notTemplate⟩ := starts
  refine ⟨c :: text, leads_self token _, ?_⟩
  intro scanner isText plain
  -- Without an open substitution a closing brace is a sign like any other.
  have closes : (scanner.braces.head? == some .substitution) = false := by
    cases braces : scanner.braces with
    | nil => rfl
    | cons brace others =>
      rw [braces] at plain
      cases brace with
      | plain => rfl
      | substitution => exact absurd List.mem_cons_self plain
  unfold Scanner.token
  rw [isText]
  dsimp only
  rw [notStart, notDigit, closes]
  simp only [Bool.false_eq_true, if_false, Bool.false_or, Bool.and_false, beq_iff_eq, notDouble,
    notSingle, notPoint, notTemplate, Bool.or_eq_true, or_self, Bool.and_eq_true, false_and]
  unfold Scanner.readSign
  rw [isText, read]
  refine ⟨_, rfl, ?_, ?_⟩
  · split
    · rfl
    · split <;> rfl
  · split
    · simpa [Scanner.goTo] using plain
    · split
      · exact fun inside => plain (List.mem_of_mem_tail inside)
      · exact plain

theorem scans_brace (rest : List Char) : Scans ('\x7b' :: rest) (.sign "\x7b") rest :=
  scans_sign (by decide) rfl

theorem scans_closingBrace (rest : List Char) : Scans ('\x7d' :: rest) (.sign "\x7d") rest :=
  scans_sign (by decide) rfl

theorem scans_comma (rest : List Char) : Scans (',' :: rest) (.sign ",") rest :=
  scans_sign (by decide) rfl

theorem scans_semicolon (rest : List Char) : Scans (';' :: rest) (.sign ";") rest :=
  scans_sign (by decide) rfl

theorem scans_star (rest : List Char) : Scans ('*' :: ' ' :: rest) (.sign "*") (' ' :: rest) :=
  scans_sign (by decide) rfl

/-! ## Token lists -/

/-- The tokens that a text starts with, as strict code sees them. -/
inductive Yields : List Char → List Token → Prop where
  | nil {text : List Char} : Yields text []
  | cons {text rest : List Char} {token : Token} {tokens : List Token} (scans : Scans text token rest)
    (others : Yields rest tokens) : Yields text (token.strict :: tokens)

theorem Yields.space {text : List Char} {tokens : List Token} (yields : Yields text tokens) :
    Yields (' ' :: text) tokens := by
  cases yields with
  | nil => exact .nil
  | cons scans others => exact .cons scans.space others

theorem Yields.lineFeed {text : List Char} {tokens : List Token} (yields : Yields text tokens) :
    Yields ('\n' :: text) tokens := by
  cases yields with
  | nil => exact .nil
  | cons scans others => exact .cons scans.lineFeed others

/-- The tokens that a parser outside of all functions has ahead. -/
structure Ahead (state : State) (tokens : List Token) : Prop where
  next : tokens.head? = some state.next
  later : Yields state.scanner.place.rest tokens.tail
  plain : .substitution ∉ state.scanner.braces
  outside : state.scope.inFunction = false

/-! ## What parsers make of tokens -/

variable {α β : Type}

/-- With the given number of repetitions, a parser makes a result of the tokens ahead and leaves the given
ones. -/
def Runs (limit : Nat) (part : Parse α) (tokens : List Token) (result : α) (rest : List Token) : Prop :=
  ∀ state, Ahead state tokens → ∃ after, part limit state = .ok (result, after) ∧ Ahead after rest

variable {limit : Nat} {token following : Token} {tokens middle rest : List Token}

theorem Runs.bind {part : Parse α} {next : α → Parse β} {value : α} {result : β}
    (first : Runs limit part tokens value middle) (second : Runs limit (next value) middle result rest) :
    Runs limit (part >>= next) tokens result rest := by
  intro state ahead
  obtain ⟨between, parsed, aheadBetween⟩ := first state ahead
  obtain ⟨after, parsedNext, aheadAfter⟩ := second between aheadBetween
  exact ⟨after, by rw [bind_run, parsed, ok_bind, parsedNext], aheadAfter⟩

theorem Runs.pure (value : α) : Runs limit (Pure.pure value) tokens value tokens :=
  fun state ahead => ⟨state, rfl, ahead⟩

/-- A parser that looks at the state sees the first token, and that it is outside of all functions. -/
theorem Runs.get {next : State → Parse β} {result : β}
    (each : ∀ state, state.next = token → state.scope.inFunction = false →
      Runs limit (next state) (token :: tokens) result rest) :
    Runs limit (MonadState.get >>= next) (token :: tokens) result rest := by
  intro state ahead
  have isNext : state.next = token := (Option.some.inj ahead.next).symm
  exact each state isNext ahead.outside state ahead

theorem runs_advance :
    Runs limit advance (token :: following :: tokens) token (following :: tokens) := by
  intro state ahead
  obtain ⟨isNext, later, plain, outside⟩ := ahead
  -- The token behind the next one is scanned, and becomes the next one.
  cases later with
  | cons scans others =>
    rename_i rest raw
    obtain ⟨after, scanned, isRest, plainAfter⟩ := scans.skipSpace false state.scanner rfl plain
    rw [← isRest] at others
    rw [Option.some.inj isNext]
    refine ⟨{ state with
      scanner := after
      next := raw.strict
      line := after.place.line
      start := (state.scanner.skipSpace false).place
      afterBreak := state.line != after.place.line }, ?_, ⟨rfl, others, plainAfter, outside⟩⟩
    unfold advance
    simp only [bind_run, get_run, ok_bind]
    rw [scanned]
    rfl

theorem runs_nextIs (symbol : String) :
    Runs limit (nextIs symbol) (token :: tokens) (token == .sign symbol) (token :: tokens) :=
  Runs.get fun _ isNext _ => isNext ▸ Runs.pure _

theorem runs_nextIsKeyword (word : String) :
    Runs limit (nextIsKeyword word) (token :: tokens) (token == .keyword word) (token :: tokens) :=
  Runs.get fun _ isNext _ => isNext ▸ Runs.pure _

theorem runs_nextIsName (word : String) :
    Runs limit (nextIsName word) (token :: tokens) (token == .name word) (token :: tokens) :=
  Runs.get fun _ isNext _ => isNext ▸ Runs.pure _

theorem runs_expectToken : Runs limit (expectToken token) (token :: following :: tokens) ()
    (following :: tokens) := by
  unfold expectToken
  refine Runs.bind runs_advance ?_
  rw [if_neg (by simp)]
  exact Runs.pure ()

theorem runs_accept (symbol : String) :
    Runs limit (accept symbol) (.sign symbol :: following :: tokens) true (following :: tokens) := by
  unfold accept
  refine Runs.bind (runs_nextIs symbol) ?_
  dsimp only
  rw [beq_self_eq_true, if_pos rfl]
  exact Runs.bind runs_advance (Runs.pure true)

theorem runs_accept_other {symbol : String} (different : (token == .sign symbol) = false) :
    Runs limit (accept symbol) (token :: tokens) false (token :: tokens) := by
  unfold accept
  refine Runs.bind (runs_nextIs symbol) ?_
  dsimp only
  rw [different, if_neg (by simp)]
  exact Runs.pure false

theorem runs_anyWord (word : String) :
    Runs limit anyWord (.name word :: following :: tokens) word (following :: tokens) :=
  Runs.bind runs_advance (Runs.pure word)

theorem runs_endStatement :
    Runs limit endStatement (.sign ";" :: following :: tokens) () (following :: tokens) := by
  unfold endStatement
  exact Runs.bind (runs_accept ";") (Runs.pure ())

theorem runs_setBindable (bindable : Bool) : Runs limit (setBindable bindable) tokens () tokens := by
  intro state ahead
  exact ⟨_, rfl, ⟨ahead.next, ahead.later, ahead.plain, ahead.outside⟩⟩

theorem peek_run {state : State} {raw : Token} {after : Scanner}
    (scanned : (state.scanner.skipSpace false).token = some (raw, after)) :
    peek limit state = .ok ((raw, after.place.line == state.scanner.place.line),
      { state with scanner := { after with place := state.scanner.place } }) := by
  unfold peek
  simp only [bind_run, get_run, ok_bind]
  rw [scanned]
  rfl

/-- The word `import` starts a call only in front of a parenthesis. -/
theorem runs_startsImportCall (different : following ≠ .sign "(") :
    Runs limit startsImportCall (.keyword "import" :: following :: tokens) false
      (.keyword "import" :: following :: tokens) := by
  intro state ahead
  obtain ⟨isNext, later, plain, outside⟩ := ahead
  cases later with
  | cons scans others =>
    rename_i rest raw
    obtain ⟨after, scanned, -, plainAfter⟩ := scans.skipSpace false state.scanner rfl plain
    -- The token is looked at as it stands in the text, before strict code makes anything of it.
    have notCall : (raw == .sign "(") = false := by
      rw [beq_eq_false_iff_ne]
      rintro rfl
      exact different rfl
    refine ⟨{ state with scanner := { after with place := state.scanner.place } }, ?_,
      ⟨isNext, .cons scans others, plainAfter, outside⟩⟩
    have isImport : (state.next == .keyword "import") = true := by
      rw [← Option.some.inj isNext]
      rfl
    unfold startsImportCall nextIsKeyword
    simp only [bind_run, get_run, ok_bind, pure_run, isImport, if_true]
    rw [peek_run scanned, ok_bind, notCall]

/-! ## Lists of parts -/

theorem Runs.loop_part {isEnd : Parse Bool} {part : Parse α} {rounds : Nat} {parts items : List α}
    {item : α} (more : Runs limit isEnd tokens false tokens) (parsed : Runs limit part tokens item middle)
    (others : Runs limit (loopUpTo (partStep isEnd part) rounds (item :: parts)) middle items rest) :
    Runs limit (loopUpTo (partStep isEnd part) (rounds + 1) parts) tokens items rest := by
  unfold loopUpTo partStep
  exact Runs.bind (Runs.bind more (Runs.bind parsed (Runs.pure _))) others

theorem Runs.loop_end {isEnd : Parse Bool} {part : Parse α} {rounds : Nat} {parts : List α}
    (ended : Runs limit isEnd tokens true tokens) :
    Runs limit (loopUpTo (partStep isEnd part) (rounds + 1) parts) tokens parts.reverse tokens := by
  unfold loopUpTo partStep
  exact Runs.bind (Runs.bind ended (Runs.pure _)) (Runs.pure _)

end ProjectGauge.Script
