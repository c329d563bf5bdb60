import ProjectGauge.Project.Manifest
import ProjectGauge.Proofs.Files.Write
import ProjectGauge.Proofs.Json.Parsing
import ProjectGauge.Proofs.Text.Encoding

/-!
# What a manifest declares

What the packages of a project are is said here without the reader: by the entry that stands at the place of
the manifest, by the text whose bytes it has, and by the grammar of JSON.  The reading of a manifest gives
these packages, or an error where the manifest is refused.

* `Declares` says which packages a project declares, and `IsRefused` which manifests are refused.
* `declared_eq_ok_iff` and `declared_fails_iff`: the reader does so in all cases.
-/

namespace ProjectGauge.Manifest

open Files
open Json (IsLast Spells merge settledMembers)

/-! ## Sections -/

/-- A value that counts as absent. -/
inductive IsFalsy : Json.Value → Prop where
  | null : IsFalsy .null
  | false : IsFalsy (.bool false)
  | integer : IsFalsy (.int 0)
  | real (negative : Bool) : IsFalsy (.real (.finite negative 0))
  | text : IsFalsy (.text "")
  | array : IsFalsy (.array [])
  | object : IsFalsy (.object [])

/-- The members of a section of a manifest as they are written. -/
inductive IsSection (name : String) (members : List (String × Json.Value)) :
    List (String × Json.Value) → Prop where
  | missing (absent : name ∉ members.map Prod.fst) : IsSection name members []
  | object {entries : List (String × Json.Value)} (isLast : IsLast name members (.object entries)) :
      IsSection name members entries
  | falsy {value : Json.Value} (isLast : IsLast name members value) (isFalsy : IsFalsy value) :
      IsSection name members []

/-- The section of a name is neither an object nor one that counts as absent. -/
def HasBadSection (name : String) (members : List (String × Json.Value)) : Prop :=
  ∃ value, IsLast name members value ∧ ¬ IsFalsy value ∧ ∀ entries, value ≠ .object entries

theorem isFalsy_iff {value : Json.Value} (notObject : ∀ entries, value ≠ .object entries) :
    IsFalsy value ↔ value.settled.isEmpty = true := by
  constructor
  · intro isFalsy
    cases isFalsy <;> rfl
  · intro isEmpty
    cases value with
    | null => exact .null
    | bool b =>
      cases b with
      | false => exact .false
      | true => cases isEmpty
    | int n =>
      obtain rfl : n = 0 := beq_iff_eq.mp isEmpty
      exact .integer
    | real x =>
      cases x with
      | finite negative magnitude =>
        obtain rfl : magnitude = 0 := beq_iff_eq.mp isEmpty
        exact .real negative
      | infinite negative => cases isEmpty
      | nan => cases isEmpty
    | text s =>
      obtain rfl : s = "" := String.isEmpty_iff.mp isEmpty
      exact .text
    | array items =>
      cases items with
      | nil => exact .array
      | cons item rest => cases isEmpty
    | object entries => exact absurd rfl (notObject entries)

variable {name : String} {members : List (String × Json.Value)}

theorem lookup_settled {value : Json.Value} (isLast : IsLast name members value) :
    Json.lookup name (merge [] (settledMembers members)) = some value.settled := by
  rw [Json.settledMembers_eq]
  exact (isLast.map Json.Value.settled).lookup_merge []

theorem lookup_settled_none (absent : name ∉ members.map Prod.fst) :
    Json.lookup name (merge [] (settledMembers members)) = none := by
  rw [Json.settledMembers_eq, Json.lookup_merge_of_not_mem]
  · rfl
  · simpa using absent

/-- A section is read as it is written, or it is a bad one. -/
theorem sectionMembers_cases (name : String) (members : List (String × Json.Value)) :
    (∃ entries, IsSection name members entries ∧
        sectionMembers (merge [] (settledMembers members)) name = .ok (merge [] (settledMembers entries))) ∨
      (HasBadSection name members ∧
        sectionMembers (merge [] (settledMembers members)) name = .error (.sectionNotObject name)) := by
  unfold sectionMembers
  -- What is asked for is the last member of the name, if there is one.
  by_cases isThere : name ∈ members.map Prod.fst
  · obtain ⟨value, isLast⟩ := Json.exists_isLast isThere
    rw [lookup_settled isLast]
    by_cases isObject : ∃ entries, value = .object entries
    · obtain ⟨entries, rfl⟩ := isObject
      exact .inl ⟨entries, .object isLast, rfl⟩
    · rw [not_exists] at isObject
      have notSettled : ∀ entries, value.settled ≠ .object entries := by
        intro entries same
        cases value with
        | object others => exact isObject others rfl
        | _ => cases same
      by_cases isFalsy : IsFalsy value
      · refine .inl ⟨[], .falsy isLast isFalsy, ?_⟩
        have isEmpty := (isFalsy_iff isObject).mp isFalsy
        split
        · rename_i none
          cases none
        · rename_i entries same
          exact absurd (Option.some.inj same) (notSettled entries)
        · rename_i other _ same
          obtain rfl := Option.some.inj same
          rw [if_pos isEmpty]
          rfl
      · refine .inr ⟨⟨value, isLast, isFalsy, isObject⟩, ?_⟩
        have notEmpty := mt (isFalsy_iff isObject).mpr isFalsy
        split
        · rename_i none
          cases none
        · rename_i entries same
          exact absurd (Option.some.inj same) (notSettled entries)
        · rename_i other _ same
          obtain rfl := Option.some.inj same
          rw [if_neg notEmpty]
  · rw [lookup_settled_none isThere]
    exact .inl ⟨[], .missing isThere, rfl⟩

/-- A section is written in one way only. -/
theorem IsSection.unique {entries others : List (String × Json.Value)}
    (isSection : IsSection name members entries) (isOther : IsSection name members others) : entries = others := by
  cases isSection with
  | missing absent =>
    cases isOther with
    | missing => rfl
    | object isLast => exact absurd isLast.mem_names absent
    | falsy => rfl
  | object isLast =>
    cases isOther with
    | missing absent => exact absurd isLast.mem_names absent
    | object otherLast => exact Json.Value.object.inj (isLast.unique otherLast)
    | falsy otherLast isFalsy =>
      obtain rfl := isLast.unique otherLast
      cases isFalsy
      rfl
  | falsy isLast isFalsy =>
    cases isOther with
    | missing => rfl
    | object otherLast =>
      obtain rfl := isLast.unique otherLast
      cases isFalsy
      rfl
    | falsy => rfl

theorem IsSection.not_bad {entries : List (String × Json.Value)}
    (isSection : IsSection name members entries) : ¬ HasBadSection name members := by
  rintro ⟨value, isLast, notFalsy, notObject⟩
  cases isSection with
  | missing absent => exact absent isLast.mem_names
  | object otherLast => exact notObject _ (isLast.unique otherLast)
  | falsy otherLast isFalsy => exact notFalsy (isLast.unique otherLast ▸ isFalsy)

/-! ## Declared packages -/

/-- The packages of two sections: those at run time in their order, and behind them those of development
only.  Where both declare a package, development says which version. -/
structure Merges (runtime development : List (String × Json.Value)) (declared : Declared) : Prop where
  names : declared.map Prod.fst = (runtime.map Prod.fst).eraseDups ++
    (development.map Prod.fst).eraseDups.filter (· ∉ runtime.map Prod.fst)
  ofDevelopment : ∀ name version, IsLast name development version → (name, version.settled) ∈ declared
  ofRuntime : ∀ name version, name ∉ development.map Prod.fst → IsLast name runtime version →
    (name, version.settled) ∈ declared

variable {runtime development : List (String × Json.Value)} {declared other : Declared}

theorem names_settled (members : List (String × Json.Value)) :
    (merge [] (settledMembers members)).map Prod.fst = (members.map Prod.fst).eraseDups := by
  rw [Json.names_merge, Json.settledMembers_eq, List.map_map, List.map_nil, List.nil_append]
  exact List.filter_eq_self.mpr (by simp)

theorem nodup_settled (members : List (String × Json.Value)) :
    ((merge [] (settledMembers members)).map Prod.fst).Nodup :=
  names_settled members ▸ Json.nodup_eraseDups _

theorem merges_sections (runtime development : List (String × Json.Value)) :
    Merges runtime development
      (merge (merge [] (settledMembers runtime)) (merge [] (settledMembers development))) where
  names := by
    rw [Json.names_merge, Json.eraseDups_of_nodup (nodup_settled development), names_settled, names_settled]
    simp only [List.mem_eraseDups]
  ofDevelopment name version isLast := by
    have settled := Json.isLast_of_mem (nodup_settled development)
      (Json.mem_of_lookup (lookup_settled isLast))
    exact Json.mem_of_lookup (settled.lookup_merge _)
  ofRuntime name version absent isLast := by
    refine Json.mem_of_lookup ((Json.lookup_merge_of_not_mem ?_ _).trans (lookup_settled isLast))
    rw [names_settled, List.mem_eraseDups]
    exact absent

theorem Merges.distinct (merges : Merges runtime development declared) : (declared.map Prod.fst).Nodup := by
  rw [merges.names, List.nodup_append']
  refine ⟨Json.nodup_eraseDups _, (Json.nodup_eraseDups _).filter _, ?_⟩
  intro name inRuntime inDevelopment
  rw [List.mem_eraseDups] at inRuntime
  simpa [inRuntime] using (List.mem_filter.mp inDevelopment).2

/-- Each declared package has the version of the last section that declares it. -/
theorem Merges.version (merges : Merges runtime development declared) {entry : String × Json.Value}
    (isDeclared : entry ∈ declared) :
    ∃ version, entry.2 = version.settled ∧ (IsLast entry.1 development version ∨
      entry.1 ∉ development.map Prod.fst ∧ IsLast entry.1 runtime version) := by
  -- The names are distinct, so what is known of a name is all that is declared for it.
  have only {version : Json.Value} (isThere : (entry.1, version.settled) ∈ declared) :
      entry.2 = version.settled :=
    Option.some.inj ((Json.lookup_of_mem merges.distinct isDeclared).symm.trans
      (Json.lookup_of_mem merges.distinct isThere))
  by_cases inDevelopment : entry.1 ∈ development.map Prod.fst
  · obtain ⟨version, isLast⟩ := Json.exists_isLast inDevelopment
    exact ⟨version, only (merges.ofDevelopment _ _ isLast), .inl isLast⟩
  · have named : entry.1 ∈ declared.map Prod.fst := List.mem_map_of_mem isDeclared
    rw [merges.names, List.mem_append, List.mem_eraseDups, List.mem_filter, List.mem_eraseDups] at named
    have inRuntime := named.resolve_right fun inBoth => inDevelopment inBoth.1
    obtain ⟨version, isLast⟩ := Json.exists_isLast inRuntime
    exact ⟨version, only (merges.ofRuntime _ _ inDevelopment isLast), .inr ⟨inDevelopment, isLast⟩⟩

/-- Two sections declare the same packages in whatever way they are merged. -/
theorem Merges.unique (merges : Merges runtime development declared)
    (otherMerges : Merges runtime development other) : declared = other := by
  have sameNames := merges.names.trans otherMerges.names.symm
  refine Json.eq_of_names sameNames merges.distinct fun entry isDeclared => ?_
  obtain ⟨version, isVersion, isLast | ⟨absent, isLast⟩⟩ := merges.version isDeclared
  · have isThere := otherMerges.ofDevelopment _ _ isLast
    rwa [← isVersion] at isThere
  · have isThere := otherMerges.ofRuntime _ _ absent isLast
    rwa [← isVersion] at isThere

/-- What a manifest with some members declares, or that one of its sections is bad. -/
theorem declaredIn_cases (members : List (String × Json.Value)) :
    (∃ runtime development declared, IsSection "dependencies" members runtime ∧
        IsSection "devDependencies" members development ∧ Merges runtime development declared ∧
        declaredIn (.object (merge [] (settledMembers members))) = .ok declared) ∨
      ∃ name ∈ ["dependencies", "devDependencies"], HasBadSection name members ∧
        declaredIn (.object (merge [] (settledMembers members))) = .error (.sectionNotObject name) := by
  unfold declaredIn
  simp only [sections, List.foldlM_cons, List.foldlM_nil]
  rcases sectionMembers_cases "dependencies" members with
    ⟨runtime, isRuntime, runtimeRead⟩ | ⟨isBad, runtimeRead⟩
  · rcases sectionMembers_cases "devDependencies" members with
      ⟨development, isDevelopment, developmentRead⟩ | ⟨isBad, developmentRead⟩
    · refine .inl ⟨runtime, development, _, isRuntime, isDevelopment, merges_sections _ _, ?_⟩
      rw [runtimeRead, developmentRead]
      simp only [ok_bind, Json.merge_nil (nodup_settled runtime)]
      rfl
    · refine .inr ⟨"devDependencies", by simp, isBad, ?_⟩
      rw [runtimeRead, developmentRead]
      rfl
  · refine .inr ⟨"dependencies", by simp, isBad, ?_⟩
    rw [runtimeRead]
    rfl

/-! ## Manifests in a file tree -/

/-- The path of the manifest of a project. -/
def place (project : Path) : Path :=
  project.child "package.json".toList

/-- What a project declares: nothing without a manifest, and otherwise what the sections of the object say
that its manifest spells. -/
inductive Declares (system : System) (project : Path) : Declared → Prop where
  | missing {e : Files.Error} (absent : system.nodeAt (place project) = .error e)
      (notLong : ∀ text, e ≠ .refused .nameTooLong text) : Declares system project []
  | written {content : Content} {text : List Char} {members runtime development : List (String × Json.Value)}
      {declared : Declared} (isFile : system.nodeAt (place project) = .ok (.file content))
      (encoded : Text.Utf8.encode text = content.allBytes)
      (spells : Spells (.item (.object members)) (Text.unifyNewlines text))
      (isRuntime : IsSection "dependencies" members runtime)
      (isDevelopment : IsSection "devDependencies" members development)
      (merges : Merges runtime development declared) : Declares system project declared

/-- The manifest of a project is refused: its path is longer than the system accepts, or there is an entry
at its path, but no file, no text in UTF-8, no JSON, no object or an object with a bad section. -/
inductive IsRefused (system : System) (project : Path) : Prop where
  | tooLong {text : List Char} (refused : system.nodeAt (place project) = .error (.refused .nameTooLong text))
  | noFile {node : Node} (isThere : system.nodeAt (place project) = .ok node)
      (notFile : ∀ content, node ≠ .file content)
  | noText {content : Content} (isFile : system.nodeAt (place project) = .ok (.file content))
      (notText : ∀ text, Text.Utf8.encode text ≠ content.allBytes)
  | noJson {content : Content} {text : List Char}
      (isFile : system.nodeAt (place project) = .ok (.file content))
      (encoded : Text.Utf8.encode text = content.allBytes)
      (notJson : ∀ value, ¬ Spells (.item value) (Text.unifyNewlines text))
  | noObject {content : Content} {text : List Char} {value : Json.Value}
      (isFile : system.nodeAt (place project) = .ok (.file content))
      (encoded : Text.Utf8.encode text = content.allBytes)
      (spells : Spells (.item value) (Text.unifyNewlines text))
      (notObject : ∀ members, value ≠ .object members)
  | badSection {content : Content} {text : List Char} {members : List (String × Json.Value)} {name : String}
      (isFile : system.nodeAt (place project) = .ok (.file content))
      (encoded : Text.Utf8.encode text = content.allBytes)
      (spells : Spells (.item (.object members)) (Text.unifyNewlines text))
      (isSection : name ∈ ["dependencies", "devDependencies"]) (isBad : HasBadSection name members)

variable {system : System} {project : Path}

/-! ## What stands at the place of the manifest -/

theorem declared_of_tooLong {text : List Char}
    (refused : system.nodeAt (place project) = .error (.refused .nameTooLong text)) :
    Manifest.declared system project = .error (.files (.refused .nameTooLong text)) := by
  have isLong : system.exists? (place project) = .error (.refused .nameTooLong text) := by
    unfold System.exists?
    rw [refused]
    rfl
  unfold Manifest.declared
  exact congrArg (fun asked : Except Files.Error Bool => asked.mapError ManifestError.files >>= _) isLong

theorem declared_of_missing {e : Files.Error} (absent : system.nodeAt (place project) = .error e)
    (notLong : ∀ text, e ≠ .refused .nameTooLong text) : Manifest.declared system project = .ok [] := by
  have isAbsent : system.exists? (place project) = .ok false := by
    unfold System.exists?
    rw [absent]
    cases e with
    | refused cause text =>
      cases cause with
      | nameTooLong => exact absurd rfl (notLong text)
      | _ => rfl
    | nullCharacter => rfl
    | linkLoop text => rfl
  unfold Manifest.declared
  exact congrArg (fun asked : Except Files.Error Bool => asked.mapError ManifestError.files >>= _) isAbsent

/-- Where there is an entry, its bytes are read. -/
theorem declared_of_there {node : Node} (isThere : system.nodeAt (place project) = .ok node) :
    Manifest.declared system project =
      (system.bytesAt (place project)).mapError .files >>= fun bytes => parse bytes >>= declaredIn := by
  have asked : system.exists? (place project) = .ok true := by
    unfold System.exists?
    rw [isThere]
    rfl
  unfold Manifest.declared
  exact congrArg (fun asked : Except Files.Error Bool => asked.mapError ManifestError.files >>= _) asked

theorem declared_of_node {node : Node} (isThere : system.nodeAt (place project) = .ok node)
    (notFile : ∀ content, node ≠ .file content) :
    Manifest.declared system project = .error (.files (.refused .isDirectory (place project).text)) := by
  rw [declared_of_there isThere]
  unfold System.bytesAt
  rw [isThere]
  cases node with
  | file content => exact absurd rfl (notFile content)
  | _ => rfl

theorem declared_of_file {content : Content} (isFile : system.nodeAt (place project) = .ok (.file content)) :
    Manifest.declared system project = parse content.allBytes >>= declaredIn := by
  rw [declared_of_there isFile, System.bytesAt_of_nodeAt isFile]
  rfl

/-! ## What a manifest comes to -/

/-- What the bytes of a manifest come to. -/
theorem parse_cases (bytes : List UInt8) :
    (∃ text value, Text.Utf8.encode text = bytes ∧ Spells (.item value) (Text.unifyNewlines text) ∧
        parse bytes = .ok value.settled) ∨
      (∃ e, parse bytes = .error e) ∧ ((∀ text, Text.Utf8.encode text ≠ bytes) ∨
        ∃ text, Text.Utf8.encode text = bytes ∧
          ∀ value, ¬ Spells (.item value) (Text.unifyNewlines text)) := by
  unfold parse
  cases decoded : Text.Utf8.decode bytes with
  | error e =>
    refine .inr ⟨⟨_, rfl⟩, .inl fun text encoded => ?_⟩
    rw [Text.Utf8.decode_eq_ok_iff.mpr encoded] at decoded
    cases decoded
  | ok text =>
    have encoded := Text.Utf8.decode_eq_ok_iff.mp decoded
    cases accepted : Json.read (Text.unifyNewlines text) with
    | error e =>
      refine .inr ⟨⟨.malformed e, by rw [mapError_ok, ok_bind, accepted]; rfl⟩,
        .inr ⟨text, encoded, fun value spells => ?_⟩⟩
      rw [Json.read_eq_ok_iff.mpr ⟨value, spells, rfl⟩] at accepted
      cases accepted
    | ok value =>
      obtain ⟨written, spells, rfl⟩ := Json.read_eq_ok_iff.mp accepted
      exact .inl ⟨text, written, encoded, spells, by rw [mapError_ok, ok_bind, accepted]; rfl⟩

theorem declaredIn_notObject {value : Json.Value} (notObject : ∀ members, value ≠ .object members) :
    declaredIn value.settled = .error .notObject := by
  cases value with
  | object members => exact absurd rfl (notObject members)
  | _ => rfl

/-- A file at the place of the manifest declares some packages, or it is refused. -/
theorem content_cases {content : Content} (isFile : system.nodeAt (place project) = .ok (.file content)) :
    (∃ declared, Declares system project declared ∧
        (parse content.allBytes >>= declaredIn) = .ok declared) ∨
      IsRefused system project ∧ ∃ e, (parse content.allBytes >>= declaredIn) = .error e := by
  rcases parse_cases content.allBytes with
    ⟨text, value, encoded, spells, parsed⟩ | ⟨⟨e, failed⟩, notText | ⟨text, encoded, notJson⟩⟩
  · rw [parsed, ok_bind]
    by_cases isObject : ∃ members, value = .object members
    · obtain ⟨members, rfl⟩ := isObject
      rcases declaredIn_cases members with
        ⟨runtime, development, declared, isRuntime, isDevelopment, merges, read⟩ |
          ⟨name, isSection, isBad, failed⟩
      · exact .inl ⟨declared, .written isFile encoded spells isRuntime isDevelopment merges, read⟩
      · exact .inr ⟨.badSection isFile encoded spells isSection isBad, _, failed⟩
    · rw [not_exists] at isObject
      exact .inr ⟨.noObject isFile encoded spells isObject, _, declaredIn_notObject isObject⟩
  · exact .inr ⟨.noText isFile notText, e, by rw [failed]; rfl⟩
  · exact .inr ⟨.noJson isFile encoded notJson, e, by rw [failed]; rfl⟩

/-- Every project declares some packages, or its manifest is refused. -/
theorem declared_cases (system : System) (project : Path) :
    (∃ declared, Declares system project declared ∧ Manifest.declared system project = .ok declared) ∨
      IsRefused system project ∧ ∃ e, Manifest.declared system project = .error e := by
  cases found : system.nodeAt (place project) with
  | error e =>
    by_cases long : ∃ text, e = .refused .nameTooLong text
    · obtain ⟨text, rfl⟩ := long
      exact .inr ⟨.tooLong found, _, declared_of_tooLong found⟩
    · rw [not_exists] at long
      exact .inl ⟨[], .missing found long, declared_of_missing found long⟩
  | ok node =>
    by_cases isFile : ∃ content, node = .file content
    · obtain ⟨content, rfl⟩ := isFile
      rw [declared_of_file found]
      exact content_cases found
    · rw [not_exists] at isFile
      exact .inr ⟨.noFile found isFile, _, declared_of_node found isFile⟩

/-! ## Both directions -/

theorem parse_of_spells {bytes : List UInt8} {text : List Char} {value : Json.Value}
    (encoded : Text.Utf8.encode text = bytes) (spells : Spells (.item value) (Text.unifyNewlines text)) :
    parse bytes = .ok value.settled := by
  unfold parse
  rw [Text.Utf8.decode_eq_ok_iff.mpr encoded, mapError_ok, ok_bind,
    Json.read_eq_ok_iff.mpr ⟨value, spells, rfl⟩]
  rfl

/-- What a project declares is read. -/
theorem Declares.read (declares : Declares system project declared) :
    Manifest.declared system project = .ok declared := by
  cases declares with
  | missing absent notLong => exact declared_of_missing absent notLong
  | @written content text members runtime development declared isFile encoded spells isRuntime isDevelopment
      merges =>
    rw [declared_of_file isFile, parse_of_spells encoded spells, ok_bind, Json.settled_object]
    rcases declaredIn_cases members with
      ⟨others, otherDevelopment, found, isOther, isOtherDevelopment, otherMerges, read⟩ |
        ⟨name, isSection, isBad, -⟩
    · obtain rfl := isRuntime.unique isOther
      obtain rfl := isDevelopment.unique isOtherDevelopment
      rw [read, merges.unique otherMerges]
    · simp only [List.mem_cons, List.not_mem_nil, or_false] at isSection
      rcases isSection with rfl | rfl
      · exact absurd isBad isRuntime.not_bad
      · exact absurd isBad isDevelopment.not_bad

/-- No package is declared twice. -/
theorem Declares.distinct (declares : Declares system project declared) : (declared.map Prod.fst).Nodup := by
  cases declares with
  | missing => exact List.nodup_nil
  | written _ _ _ _ _ merges => exact merges.distinct

/-- A manifest that is refused is not read. -/
theorem IsRefused.fails (isRefused : IsRefused system project) :
    ∃ e, Manifest.declared system project = .error e := by
  cases isRefused with
  | tooLong refused => exact ⟨_, declared_of_tooLong refused⟩
  | noFile isThere notFile => exact ⟨_, declared_of_node isThere notFile⟩
  | noText isFile notText =>
    rw [declared_of_file isFile]
    rcases parse_cases _ with ⟨text, value, encoded, -, -⟩ | ⟨⟨e, failed⟩, -⟩
    · exact absurd encoded (notText text)
    · exact ⟨e, by rw [failed]; rfl⟩
  | noJson isFile encoded notJson =>
    rw [declared_of_file isFile]
    rcases parse_cases _ with ⟨other, value, otherEncoded, spells, -⟩ | ⟨⟨e, failed⟩, -⟩
    · -- The bytes of a text are those of no other one.
      have same := (Text.Utf8.decode_eq_ok_iff.mpr otherEncoded).symm.trans
        (Text.Utf8.decode_eq_ok_iff.mpr encoded)
      obtain rfl := Except.ok.inj same
      exact absurd spells (notJson value)
    · exact ⟨e, by rw [failed]; rfl⟩
  | noObject isFile encoded spells notObject =>
    rw [declared_of_file isFile, parse_of_spells encoded spells, ok_bind]
    exact ⟨_, declaredIn_notObject notObject⟩
  | @badSection content text members name isFile encoded spells isSection isBad =>
    rw [declared_of_file isFile, parse_of_spells encoded spells, ok_bind, Json.settled_object]
    rcases declaredIn_cases members with
      ⟨runtime, development, declared, isRuntime, isDevelopment, -, -⟩ | ⟨other, -, -, failed⟩
    · simp only [List.mem_cons, List.not_mem_nil, or_false] at isSection
      rcases isSection with rfl | rfl
      · exact absurd isBad isRuntime.not_bad
      · exact absurd isBad isDevelopment.not_bad
    · exact ⟨_, failed⟩

/-- The packages that are read are those that a project declares. -/
theorem declared_eq_ok_iff :
    Manifest.declared system project = .ok declared ↔ Declares system project declared := by
  refine ⟨fun read => ?_, Declares.read⟩
  rcases declared_cases system project with ⟨found, declares, otherRead⟩ | ⟨-, e, failed⟩
  · rw [read] at otherRead
    cases otherRead
    exact declares
  · rw [read] at failed
    cases failed

/-- The manifests that are not read are those that are refused. -/
theorem declared_fails_iff :
    (∃ e, Manifest.declared system project = .error e) ↔ IsRefused system project := by
  refine ⟨fun ⟨e, failed⟩ => ?_, IsRefused.fails⟩
  rcases declared_cases system project with ⟨found, declares, read⟩ | ⟨isRefused, -⟩
  · rw [failed] at read
    cases read
  · exact isRefused

end ProjectGauge.Manifest
