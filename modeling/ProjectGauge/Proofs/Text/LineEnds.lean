import ProjectGauge.Proofs.Text.Encoding
import ProjectGauge.Proofs.Text.Utf8

/-!
# Texts with other line ends

A file may have been written with carriage returns in its line ends.  No carriage return and no line feed
continues a character, so neither makes a difference for the characters and the faults around it, and when
the line ends are unified the text is what it was.

* `LineEnd.spell` writes another end for each line, and `SameLines` says that no more than that has been done.
* `frontsFrom` lists the characters and the faults of a run of bytes, and `frontsFrom_spell` says what becomes
  of them.
* `SameLines.unify_decodeLossy` and `SameLines.decode_cases` carry it to the texts that are read.
-/

namespace ProjectGauge.Text

/-! ## Line ends -/

/-- The end of a line in a file. -/
inductive LineEnd where
  | lineFeed
  | both
  | carriageReturn

namespace LineEnd

def bytes : LineEnd → List UInt8
  | lineFeed => [0x0a]
  | both => [0x0d, 0x0a]
  | carriageReturn => [0x0d]

def chars : LineEnd → List Char
  | lineFeed => ['\n']
  | both => ['\r', '\n']
  | carriageReturn => ['\r']

/-- Some bytes with an end of this kind in the place of every line feed. -/
def spell (lineEnd : LineEnd) (bytes : List UInt8) : List UInt8 :=
  bytes.flatMap fun b => if b = 0x0a then lineEnd.bytes else [b]

def spellText (lineEnd : LineEnd) (text : List Char) : List Char :=
  text.flatMap fun c => if c = '\n' then lineEnd.chars else [c]

end LineEnd

/-- The bytes of a file are left as they are, or each of its lines is given another end.  Only a file without
carriage returns is given other line ends. -/
inductive SameLines : List UInt8 → List UInt8 → Prop where
  | kept (bytes : List UInt8) : SameLines bytes bytes
  | spelled {bytes : List UInt8} (noReturn : 0x0d ∉ bytes) (lineEnd : LineEnd) :
    SameLines bytes (lineEnd.spell bytes)

/-! ## Unified line ends -/

theorem head?_spellText_carriageReturn (text : List Char) :
    (LineEnd.carriageReturn.spellText text).head? ≠ some '\n' := by
  cases text with
  | nil => simp [LineEnd.spellText]
  | cons c rest =>
    by_cases feed : c = '\n' <;> simp [LineEnd.spellText, LineEnd.chars, feed]

theorem unifyNewlinesFrom_spellText (lineEnd : LineEnd) {text : List Char} (noReturn : '\r' ∉ text)
    (read : List Char) : unifyNewlinesFrom read (lineEnd.spellText text) = read.reverse ++ text := by
  induction text generalizing read with
  | nil => simp [LineEnd.spellText, unifyNewlinesFrom]
  | cons c rest inductionHypothesis =>
    rw [List.mem_cons, not_or] at noReturn
    have others := inductionHypothesis noReturn.2 (c :: read)
    rw [List.reverse_cons, List.append_assoc, List.singleton_append] at others
    rw [← others]
    by_cases feed : c = '\n'
    · subst feed
      cases lineEnd with
      | lineFeed => rfl
      | both => rfl
      | carriageReturn =>
        have alone := head?_spellText_carriageReturn rest
        change unifyNewlinesFrom read ('\r' :: LineEnd.carriageReturn.spellText rest) = _
        rw [unifyNewlinesFrom, if_pos (beq_self_eq_true '\r'), if_neg (by simpa using alone)]
    · have split : lineEnd.spellText (c :: rest) = c :: lineEnd.spellText rest := by
        simp [LineEnd.spellText, feed]
      rw [split, unifyNewlinesFrom, if_neg (by simpa using Ne.symm noReturn.1)]

/-- A text without carriage returns is what is left when its line ends are unified, however they are
written. -/
theorem unifyNewlines_spellText (lineEnd : LineEnd) {text : List Char} (noReturn : '\r' ∉ text) :
    unifyNewlines (lineEnd.spellText text) = text :=
  unifyNewlinesFrom_spellText lineEnd noReturn []

namespace Utf8

/-! ## Characters and faults -/

namespace Front

/-- The number of bytes of a character or a fault. -/
def length : Front → Nat
  | char _ length => length
  | fault _ length => length

/-- The character that is read, or the one in the place of a fault. -/
def shown : Front → Char
  | char c _ => c
  | fault _ _ => replacement

def isChar : Front → Bool
  | char _ _ => true
  | fault _ _ => false

end Front

/-- The characters and the faults of a run of bytes behind those of the last one that are still to be passed
over. -/
def frontsFrom : Nat → List UInt8 → List Front
  | _, [] => []
  | pending + 1, _ :: rest => frontsFrom pending rest
  | 0, b :: rest => front b rest :: frontsFrom ((front b rest).length - 1) rest

theorem decodeLossyFrom_eq (pending : Nat) (read : List Char) (bytes : List UInt8) :
    decodeLossyFrom pending read bytes = read.reverse ++ (frontsFrom pending bytes).map Front.shown := by
  fun_induction decodeLossyFrom pending read bytes with
  | case1 pending read => simp [frontsFrom]
  | case2 read byte rest pending inductionHypothesis => exact inductionHypothesis
  | case3 read byte rest c length isFront inductionHypothesis =>
    rw [inductionHypothesis, frontsFrom, isFront]
    simp [Front.shown, Front.length]
  | case4 read byte rest fault length isFront inductionHypothesis =>
    rw [inductionHypothesis, frontsFrom, isFront]
    simp [Front.shown, Front.length]

theorem decodeLossy_eq (bytes : List UInt8) : decodeLossy bytes = (frontsFrom 0 bytes).map Front.shown :=
  decodeLossyFrom_eq 0 [] bytes

/-- Bytes are read without replacements if and only if there are no faults among them. -/
theorem decodeFrom_eq_ok_iff (pending position : Nat) (read : List Char) (bytes : List UInt8)
    (text : List Char) :
    decodeFrom pending position read bytes = .ok text ↔
      (∀ part ∈ frontsFrom pending bytes, part.isChar = true) ∧
        text = read.reverse ++ (frontsFrom pending bytes).map Front.shown := by
  fun_induction decodeFrom pending position read bytes with
  | case1 pending position read =>
    simp only [frontsFrom, List.not_mem_nil, false_implies, implies_true, true_and, List.map_nil,
      List.append_nil, Except.ok.injEq]
    exact eq_comm
  | case2 position read byte rest pending inductionHypothesis => exact inductionHypothesis
  | case3 position read byte rest c length isFront inductionHypothesis =>
    rw [inductionHypothesis, frontsFrom, isFront]
    simp [Front.shown, Front.length, Front.isChar]
  | case4 position read byte rest fault length isFront =>
    rw [frontsFrom, isFront]
    simp [Front.isChar]

theorem decode_eq_ok_iff_fronts {bytes : List UInt8} {text : List Char} :
    decode bytes = .ok text ↔
      (∀ part ∈ frontsFrom 0 bytes, part.isChar = true) ∧ text = (frontsFrom 0 bytes).map Front.shown :=
  decodeFrom_eq_ok_iff 0 0 [] bytes text

/-! ## What a front depends on -/

/-- Two runs of bytes agree until both end or neither continues a character. -/
inductive Agree : List UInt8 → List UInt8 → Prop where
  | nil : Agree [] []
  | cons {rest others : List UInt8} (b : UInt8) (agree : Agree rest others) : Agree (b :: rest) (b :: others)
  | stop {b other : UInt8} {rest others : List UInt8} (first : isContinuation b = false)
    (second : isContinuation other = false) : Agree (b :: rest) (other :: others)

theorem Agree.takeWhile_take {rest others : List UInt8} (agree : Agree rest others) (count : Nat) :
    (rest.take count).takeWhile isContinuation = (others.take count).takeWhile isContinuation ∧
      (((rest.take count).takeWhile isContinuation).length = (rest.take count).length ↔
        ((others.take count).takeWhile isContinuation).length = (others.take count).length) := by
  induction agree generalizing count with
  | nil => exact ⟨rfl, Iff.rfl⟩
  | cons b agree inductionHypothesis =>
    cases count with
    | zero => exact ⟨rfl, Iff.rfl⟩
    | succ count =>
      obtain ⟨same, ends⟩ := inductionHypothesis count
      rw [List.take_succ_cons, List.take_succ_cons]
      by_cases goesOn : isContinuation b = true
      · rw [List.takeWhile_cons_of_pos goesOn, List.takeWhile_cons_of_pos goesOn]
        exact ⟨congrArg _ same, by simpa only [List.length_cons, Nat.add_right_cancel_iff] using ends⟩
      · rw [List.takeWhile_cons_of_neg goesOn, List.takeWhile_cons_of_neg goesOn]
        exact ⟨rfl, by simp⟩
  | stop first second =>
    cases count with
    | zero => exact ⟨rfl, Iff.rfl⟩
    | succ count => simp [first, second]

theorem continues_imp {first second : UInt8} (fits : continues first second = true) :
    isContinuation second = true :=
  (isContinuation_iff second).mpr ((continues_iff first second).mp fits).1

theorem Agree.longFront_eq {rest others : List UInt8} (agree : Agree rest others) (length : Nat)
    (first second : UInt8) : longFront length first second rest = longFront length first second others := by
  obtain ⟨same, ends⟩ := agree.takeWhile_take (length - 2)
  unfold longFront
  dsimp only
  rw [same] at ends ⊢
  exact ite_congr rfl (fun _ => rfl) fun _ => ite_congr (propext ends) (fun _ => rfl) fun _ => rfl

/-- The first character or fault depends on nothing behind a byte that continues no character. -/
theorem Agree.front_eq {rest others : List UInt8} (agree : Agree rest others) (first : UInt8) :
    front first rest = front first others := by
  unfold front
  split
  · rfl
  · rfl
  · cases agree with
    | nil => rfl
    | cons b agree => exact ite_congr rfl (fun _ => agree.longFront_eq _ _ _) fun _ => rfl
    | @stop b other _ _ stops otherStops =>
      have unfit {second : UInt8} (stops : isContinuation second = false) : ¬ continues first second = true :=
        fun fits => by simp [continues_imp fits] at stops
      dsimp only
      rw [if_neg (unfit stops), if_neg (unfit otherStops)]

theorem length_longFront (length : Nat) (first second : UInt8) (rest : List UInt8) :
    (longFront length first second rest).length =
      ((rest.take (length - 2)).takeWhile isContinuation).length + 2 := by
  unfold longFront
  dsimp only
  split
  · rename_i whole
    exact whole.symm
  · split <;> rfl

/-- A character or a fault goes on with bytes that continue a character. -/
theorem isContinuation_of_front (first : UInt8) (rest : List UInt8) :
    ∀ b ∈ rest.take ((front first rest).length - 1), isContinuation b = true := by
  unfold front
  split
  · simp [Front.length]
  · simp [Front.length]
  · rename_i length _ _
    cases rest with
    | nil => simp
    | cons second rest =>
      dsimp only
      split
      · rename_i fits
        rw [length_longFront, Nat.add_sub_assoc (by decide), List.take_succ_cons]
        -- The bytes that are passed over are the front part of those that are owed.
        have isPrefix := (List.takeWhile_prefix isContinuation (l := rest.take (length - 2))).trans
          (List.take_prefix _ rest)
        rw [← List.prefix_iff_eq_take.mp isPrefix]
        intro b inside
        rcases List.mem_cons.mp inside with rfl | owed
        · exact continues_imp fits
        · exact List.mem_takeWhile_imp owed
      · simp [Front.length]

/-- An ASCII character is its first byte. -/
theorem toNat_of_front {first : UInt8} {rest : List UInt8} {c : Char} (isShown : (front first rest).shown = c)
    (ascii : c.toNat < 0x80) : first.toNat = c.toNat := by
  subst isShown
  cases isFront : front first rest with
  | fault fault length =>
    rw [isFront] at ascii
    exact absurd ascii (by decide : ¬ replacement.toNat < 0x80)
  | char c length =>
    rw [isFront] at ascii
    obtain ⟨code, bytes, more, split, isSequence, rfl, -⟩ := isSequence_of_front isFront
    have ascii : (Char.ofNat code).toNat < 0x80 := ascii
    have encoded := isSequence.encodeChar
    unfold encodeChar at encoded
    dsimp only at encoded
    rw [if_pos ascii] at encoded
    rw [← encoded, List.singleton_append] at split
    cases split
    exact UInt8.toNat_ofNat_of_lt' (Nat.lt_trans ascii (by decide))

/-! ## Other line ends -/

/-- What becomes of a character or a fault when its line is given another end. -/
def respelled (lineEnd : LineEnd) (part : Front) : List Front :=
  if part.shown = '\n' then lineEnd.chars.map (Front.char · 1) else [part]

variable {lineEnd : LineEnd} {b : UInt8} {bytes rest : List UInt8}

theorem spell_cons_of_ne (other : b ≠ 0x0a) : lineEnd.spell (b :: rest) = b :: lineEnd.spell rest := by
  simp [LineEnd.spell, other]

theorem spell_cons_lineFeed : lineEnd.spell (0x0a :: rest) = lineEnd.bytes ++ lineEnd.spell rest :=
  List.flatMap_cons

theorem agree_spell (lineEnd : LineEnd) (bytes : List UInt8) : Agree bytes (lineEnd.spell bytes) := by
  induction bytes with
  | nil => exact .nil
  | cons b rest inductionHypothesis =>
    by_cases feed : b = 0x0a
    · subst feed
      rw [spell_cons_lineFeed]
      cases lineEnd <;> exact .stop rfl rfl
    · rw [spell_cons_of_ne feed]
      exact .cons b inductionHypothesis

theorem frontsFrom_ascii (ascii : b.toNat < 0x80) :
    frontsFrom 0 (b :: rest) = .char (Char.ofNat b.toNat) 1 :: frontsFrom 0 rest := by
  have isFront : front b rest = .char (Char.ofNat b.toNat) 1 := by
    unfold front
    rw [(lengthOf?_eq_some_iff b 1).mpr (.inl ⟨rfl, ascii⟩)]
    rfl
  rw [frontsFrom, isFront]
  rfl

theorem frontsFrom_bytes (lineEnd : LineEnd) (rest : List UInt8) :
    frontsFrom 0 (lineEnd.bytes ++ rest) = lineEnd.chars.map (Front.char · 1) ++ frontsFrom 0 rest := by
  have feed : frontsFrom 0 (0x0a :: rest) = .char '\n' 1 :: frontsFrom 0 rest := frontsFrom_ascii (by decide)
  have carriage (rest : List UInt8) : frontsFrom 0 (0x0d :: rest) = .char '\r' 1 :: frontsFrom 0 rest :=
    frontsFrom_ascii (by decide)
  cases lineEnd with
  | lineFeed => exact feed
  | both => exact (carriage _).trans (congrArg _ feed)
  | carriageReturn => exact carriage _

/-- Other line ends change no character and no fault but the line feeds. -/
theorem frontsFrom_spell (pending : Nat) (inside : ∀ b ∈ bytes.take pending, isContinuation b = true) :
    frontsFrom pending (lineEnd.spell bytes) = (frontsFrom pending bytes).flatMap (respelled lineEnd) := by
  induction bytes generalizing pending with
  | nil => simp [LineEnd.spell, frontsFrom]
  | cons b rest inductionHypothesis =>
    cases pending with
    | succ pending =>
      -- What is still to be passed over continues a character, so no line ends there.
      have goesOn := inside b (by simp)
      have notFeed : b ≠ 0x0a := by
        rintro rfl
        cases goesOn
      rw [spell_cons_of_ne notFeed]
      exact inductionHypothesis pending fun other member => inside other (by simp [member])
    | zero =>
      by_cases feed : b = 0x0a
      · subst feed
        have others := inductionHypothesis 0 (by simp)
        rw [spell_cons_lineFeed, frontsFrom_bytes, frontsFrom_ascii (by decide), List.flatMap_cons, others]
        rfl
      · have others := inductionHypothesis _ (isContinuation_of_front b rest)
        have notFeed : (front b rest).shown ≠ '\n' := fun isFeed =>
          feed (UInt8.toNat_inj.mp (toNat_of_front isFeed (by decide)))
        rw [spell_cons_of_ne feed, frontsFrom, frontsFrom, ← (agree_spell lineEnd rest).front_eq, others,
          List.flatMap_cons]
        unfold respelled
        rw [if_neg notFeed]
        rfl

theorem map_shown_respelled (parts : List Front) :
    (parts.flatMap (respelled lineEnd)).map Front.shown = lineEnd.spellText (parts.map Front.shown) := by
  unfold LineEnd.spellText
  rw [List.map_flatMap, List.flatMap_map]
  congr 1
  funext part
  unfold respelled
  split
  · rw [List.map_map]
    exact List.map_id _
  · rfl

theorem isChar_respelled (parts : List Front) :
    (∀ part ∈ parts.flatMap (respelled lineEnd), part.isChar = true) ↔
      ∀ part ∈ parts, part.isChar = true := by
  have each (part : Front) :
      (∀ other ∈ respelled lineEnd part, other.isChar = true) ↔ part.isChar = true := by
    unfold respelled
    split
    · rename_i isFeed
      cases part with
      | char c length => simp [Front.isChar]
      | fault fault length => exact absurd isFeed (by decide : replacement ≠ '\n')
    · simp
  simp only [List.mem_flatMap, forall_exists_index, and_imp]
  constructor
  · exact fun all part member => (each part).mp fun other isOther => all other part member isOther
  · exact fun all other part member isOther => (each part).mpr (all part member) other isOther

theorem decodeLossy_spell (lineEnd : LineEnd) (bytes : List UInt8) :
    decodeLossy (lineEnd.spell bytes) = lineEnd.spellText (decodeLossy bytes) := by
  rw [decodeLossy_eq, decodeLossy_eq, frontsFrom_spell 0 (by simp), map_shown_respelled]

theorem decode_spell_eq_ok_iff {text : List Char} :
    decode (lineEnd.spell bytes) = .ok text ↔
      ∃ before, decode bytes = .ok before ∧ text = lineEnd.spellText before := by
  simp only [decode_eq_ok_iff_fronts]
  rw [frontsFrom_spell 0 (by simp), isChar_respelled, map_shown_respelled]
  constructor
  · rintro ⟨chars, rfl⟩
    exact ⟨_, ⟨chars, rfl⟩, rfl⟩
  · rintro ⟨_, ⟨chars, rfl⟩, rfl⟩
    exact ⟨chars, rfl⟩

theorem mem_frontsFrom {pending : Nat} {part : Front} (member : part ∈ frontsFrom pending bytes) :
    ∃ b ∈ bytes, ∃ rest, part = front b rest := by
  fun_induction frontsFrom pending bytes with
  | case1 => cases member
  | case2 b rest pending inductionHypothesis =>
    obtain ⟨first, inRest, more, same⟩ := inductionHypothesis member
    exact ⟨first, List.mem_cons_of_mem _ inRest, more, same⟩
  | case3 b rest inductionHypothesis =>
    rcases List.mem_cons.mp member with rfl | behind
    · exact ⟨b, List.mem_cons_self, rest, rfl⟩
    · obtain ⟨first, inRest, more, same⟩ := inductionHypothesis behind
      exact ⟨first, List.mem_cons_of_mem _ inRest, more, same⟩

/-- Without a carriage return among the bytes there is none in the text. -/
theorem noReturn_shown (noReturn : 0x0d ∉ bytes) : '\r' ∉ (frontsFrom 0 bytes).map Front.shown := by
  intro inText
  obtain ⟨part, member, isReturn⟩ := List.mem_map.mp inText
  obtain ⟨b, isByte, rest, rfl⟩ := mem_frontsFrom member
  obtain rfl : b = 0x0d := UInt8.toNat_inj.mp (toNat_of_front isReturn (by decide))
  exact noReturn isByte

end Utf8

/-! ## What is read -/

variable {bytes others : List UInt8}

/-- The text of a file is the same. -/
theorem SameLines.unify_decodeLossy (same : SameLines bytes others) :
    unifyNewlines (Utf8.decodeLossy others) = unifyNewlines (Utf8.decodeLossy bytes) := by
  cases same with
  | kept => rfl
  | spelled noReturn lineEnd =>
    have plain : '\r' ∉ Utf8.decodeLossy bytes := by
      rw [Utf8.decodeLossy_eq]
      exact Utf8.noReturn_shown noReturn
    rw [Utf8.decodeLossy_spell, unifyNewlines_spellText lineEnd plain, unifyNewlines_noReturn plain]

/-- A file has faults with the other line ends if and only if it has some anyway, and otherwise the text is the
same. -/
theorem SameLines.decode_cases (same : SameLines bytes others) :
    (∃ e e', Utf8.decode bytes = .error e ∧ Utf8.decode others = .error e') ∨
      ∃ text other, Utf8.decode bytes = .ok text ∧ Utf8.decode others = .ok other ∧
        unifyNewlines other = unifyNewlines text := by
  cases same with
  | kept =>
    cases Utf8.decode bytes with
    | error e => exact .inl ⟨e, e, rfl, rfl⟩
    | ok text => exact .inr ⟨text, text, rfl, rfl, rfl⟩
  | spelled noReturn lineEnd =>
    cases decoded : Utf8.decode bytes with
    | ok text =>
      have plain : '\r' ∉ text := by
        rw [(Utf8.decode_eq_ok_iff_fronts.mp decoded).2]
        exact Utf8.noReturn_shown noReturn
      refine .inr ⟨text, _, rfl, Utf8.decode_spell_eq_ok_iff.mpr ⟨text, decoded, rfl⟩, ?_⟩
      rw [unifyNewlines_spellText lineEnd plain, unifyNewlines_noReturn plain]
    | error e =>
      cases spelled : Utf8.decode (lineEnd.spell bytes) with
      | error e' => exact .inl ⟨e, e', rfl, rfl⟩
      | ok other =>
        obtain ⟨text, read, -⟩ := Utf8.decode_spell_eq_ok_iff.mp spelled
        rw [decoded] at read
        cases read

end ProjectGauge.Text
