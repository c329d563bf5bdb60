import ProjectGauge.Proofs.Files.Write
import ProjectGauge.Proofs.Text.Pieces

/-!
# Paths and their texts

A path from the root whose names could be those of entries is read back from its text, so two of them
have different texts.

* `IsName` is what the name of an entry looks like.
* `parse_text` reads a path back.
-/

namespace ProjectGauge.Files

/-- A name that an entry can have. -/
structure IsName (name : Name) : Prop where
  some : name ≠ []
  noSlash : '/' ∉ name
  notSelf : name ≠ self
  notParent : name ≠ parent

/-! ## Pieces between slashes -/

theorem splitSlashes_slash (rest : List Char) : splitSlashes ('/' :: rest) = [] :: splitSlashes rest :=
  rfl

theorem splitSlashes_append (front back : List Char) :
    splitSlashes (front ++ '/' :: back) = splitSlashes front ++ splitSlashes back :=
  Text.pieces_separated rfl front back

theorem splitSlashes_plain {name : Name} (noSlash : '/' ∉ name) : splitSlashes name = [name] :=
  Text.pieces_plain fun _ member => beq_eq_false_iff_ne.mpr fun same => noSlash (same ▸ member)

theorem noSlash_of_mem_splitSlashes {text : List Char} {name : Name}
    (member : name ∈ splitSlashes text) : '/' ∉ name :=
  fun isSlash => nomatch Text.plain_of_mem_pieces member '/' isSlash

theorem splitSlashes_joined {names : List Name} (some : names ≠ [])
    (noSlash : ∀ name ∈ names, '/' ∉ name) : splitSlashes (joined ['/'] names) = names := by
  induction names with
  | nil => exact absurd rfl some
  | cons name rest inductionHypothesis =>
    have plain := noSlash name List.mem_cons_self
    cases rest with
    | nil => exact splitSlashes_plain plain
    | cons next rest =>
      rw [joined_cons_cons, List.append_assoc, List.singleton_append, splitSlashes_append,
        splitSlashes_plain plain, inductionHypothesis (List.cons_ne_nil _ _) fun other member =>
          noSlash other (List.mem_cons_of_mem _ member)]
      rfl

/-! ## Paths from the root -/

theorem text_ofNames (names : List Name) : (Path.ofNames names).text = '/' :: joined ['/'] names :=
  rfl

theorem namesIn_text {names : List Name} (areNames : ∀ name ∈ names, IsName name) :
    namesIn (Path.ofNames names).text = names := by
  rw [text_ofNames, namesIn, splitSlashes_slash]
  cases names with
  | nil => rfl
  | cons first rest =>
    rw [splitSlashes_joined (List.cons_ne_nil _ _) fun name member => (areNames name member).noSlash]
    rw [List.filter_cons_of_neg (by decide), List.filter_eq_self]
    intro name member
    simpa using (areNames name member).some

/-- A path from the root is read back from its text. -/
theorem parse_text {names : List Name} (areNames : ∀ name ∈ names, IsName name) :
    Path.parse (Path.ofNames names).text = Path.ofNames names := by
  have anchor : anchorOf (Path.ofNames names).text = .root := by
    rw [text_ofNames]
    cases names with
    | nil => rfl
    | cons first rest =>
      -- The first name does not start with a slash, so there is one slash in front.
      obtain ⟨c, name, rfl⟩ := List.exists_cons_of_ne_nil (areNames first List.mem_cons_self).some
      have notSlash : c ≠ '/' := fun same =>
        (areNames _ List.mem_cons_self).noSlash (same ▸ List.mem_cons_self)
      cases rest <;> simp [anchorOf, joined, notSlash]
  unfold Path.parse
  rw [anchor, namesIn_text areNames, Path.ofNames]
  congr 1
  rw [List.filter_eq_self]
  intro name member
  simpa using (areNames name member).notSelf

end ProjectGauge.Files
