import ProjectGauge.Proofs.Command.Call
import ProjectGauge.Proofs.Environment.Typed

/-!
# Stored directories are canonical

A directory is stored by the path from the root on which nothing is a link, so that no directory is stored
twice, however it is typed.

* `IsCanonical` says how a directory is stored.
* `Call.Clear` says which calls are clear of loops and of paths that are too long.
* `Reached.areCanonical`: clear calls keep the stored directories canonical and distinct.
* `stored_canonical`: so two stored directories are different ones, and another spelling of one of them is
  not stored again.
-/

namespace ProjectGauge

open Files Console
open Store (Holds Start)
open Json (usualRoom)

variable {system after : System} {directory : String} {place : List Name}

/-! ## Canonical paths -/

/-- A stored path is the one from the root to a directory, and no part of it is a link. -/
structure IsCanonical (system : System) (directory : String) (place : List Name) : Prop where
  text : directory = String.ofList (Path.ofNames place).text
  plain : system.IsPlain place
  leads : system.walk .existing (Path.parse directory.toList) = .ok place
  isDirectory : system.isDirectory? (Path.parse directory.toList) = .ok true

theorem parse_ofNames (areNames : ∀ name ∈ place, IsName name) :
    Path.parse (String.ofList (Path.ofNames place).text).toList = .ofNames place := by
  rw [String.toList_ofList, parse_text areNames]

/-- A directory of the tree has a canonical path, as long as the system accepts it. -/
theorem isCanonical_of_leads (areNames : ∀ name ∈ place, IsName name)
    (leads : system.Leads (.ofNames place) place) (isDirectory : system.HasDirectory place) :
    IsCanonical system (String.ofList (Path.ofNames place).text) place := by
  refine ⟨rfl, isDirectory.isPlain areNames, ?_, ?_⟩
  · rw [parse_ofNames areNames]
    exact System.walk_existing_iff.mpr leads
  · rw [parse_ofNames areNames]
    exact System.isDirectory?_of_leads leads isDirectory

namespace IsCanonical

theorem hasDirectory (canonical : IsCanonical system directory place) :
    system.Leads (.ofNames place) place ∧ system.HasDirectory place := by
  obtain ⟨rfl, plain, -, isDirectory⟩ := canonical
  rw [parse_ofNames plain.areNames] at isDirectory
  exact plain.of_isDirectory? isDirectory

theorem of_extends (more : system.Extends after) (canonical : IsCanonical system directory place) :
    IsCanonical after directory place := by
  obtain ⟨leads, isDirectory⟩ := canonical.hasDirectory
  obtain ⟨rfl, plain, -, -⟩ := canonical
  exact isCanonical_of_leads plain.areNames (leads.of_extends more) (isDirectory.of_extends more)

theorem workingIn (canonical : IsCanonical system directory place) (here : List Name) :
    IsCanonical (system.workingIn here) directory place := by
  obtain ⟨leads, isDirectory⟩ := canonical.hasDirectory
  obtain ⟨rfl, plain, -, -⟩ := canonical
  exact isCanonical_of_leads plain.areNames (leads.workingIn nofun) isDirectory

/-- Canonical paths of one place are the same. -/
theorem unique {other : String} (canonical : IsCanonical system directory place)
    (otherCanonical : IsCanonical system other place) : directory = other :=
  canonical.text.trans otherCanonical.text.symm

end IsCanonical

/-! ## Stored directories -/

/-- No directory is stored twice, and each by its canonical path. -/
structure AreCanonical (system : System) (directories : Record) : Prop where
  distinct : directories.Nodup
  canonical : ∀ directory ∈ directories, ∃ place, IsCanonical system directory place

namespace AreCanonical

variable {directories : Record}

theorem none : AreCanonical system [] :=
  ⟨List.nodup_nil, fun _ member => nomatch member⟩

theorem of_extends (more : system.Extends after) (stored : AreCanonical system directories) :
    AreCanonical after directories where
  distinct := stored.distinct
  canonical directory member := by
    obtain ⟨place, canonical⟩ := stored.canonical directory member
    exact ⟨place, canonical.of_extends more⟩

theorem workingIn (stored : AreCanonical system directories) (here : List Name) :
    AreCanonical (system.workingIn here) directories where
  distinct := stored.distinct
  canonical directory member := by
    obtain ⟨place, canonical⟩ := stored.canonical directory member
    exact ⟨place, canonical.workingIn here⟩

theorem concat (stored : AreCanonical system directories) (new : directory ∉ directories)
    (canonical : IsCanonical system directory place) :
    AreCanonical system (directories ++ [directory]) where
  distinct := List.nodup_append.mpr ⟨stored.distinct, by simp, by
    rintro other member _ isLast rfl
    exact new (List.mem_singleton.mp isLast ▸ member)⟩
  canonical other member := by
    rcases List.mem_append.mp member with inFront | isLast
    · exact stored.canonical other inFront
    · exact ⟨place, List.mem_singleton.mp isLast ▸ canonical⟩

theorem erase (stored : AreCanonical system directories) (directory : String) :
    AreCanonical system (directories.erase directory) where
  distinct := stored.distinct.erase directory
  canonical other member := stored.canonical other (List.mem_of_mem_erase member)

end AreCanonical

/-! ## Clear calls -/

/-- A call in a directory of the tree, which meets no loop of links and no path that is too long while it
resolves the path to add. -/
structure Call.Clear (call : Call) (system : System) : Prop where
  areNames : ∀ name ∈ call.here, IsName name
  isDirectory : system.HasDirectory call.here
  routed : ∀ raw text base, call.command = .add raw → call.environment.typedText raw = .ok text →
    system.resolve (Path.parse text) = .ok base → ∃ place, system.Routed (Path.parse text) place

variable {call : Call} {raw : List Char} {base : Path}

/-- What a clear call has resolved is a plain place, to which the typed path has a route. -/
theorem Call.Clear.place_eq (clear : call.Clear system) (inHere : system.here = call.here)
    (isAdd : call.command = .add raw) (isPlace : call.environment.place system raw = .ok base) :
    ∃ text place, call.environment.typedText raw = .ok text ∧ system.Routed (Path.parse text) place ∧
      base = .ofNames place ∧ system.IsPlain place := by
  obtain ⟨text, typed, resolved⟩ := Environment.place_ok_iff.mp isPlace
  obtain ⟨place, routed⟩ := clear.routed raw text base isAdd typed resolved
  refine ⟨text, place, typed, routed, routed.eq_of_resolve resolved, routed.isPlain ?_⟩
  rw [inHere]
  exact clear.isDirectory.isPlain clear.areNames

variable {origin prepared : System} {file : Path} {directories : Record}

/-- What has been stored is canonical for the next call. -/
theorem AreCanonical.prepare {here : List Name}
    (start : Start usualRoom (system.workingIn here) file directories)
    (made : Store.prepare (system.workingIn here) file = .ok prepared)
    (stored : AreCanonical system directories) : AreCanonical prepared directories := by
  rcases start.eq_of_prepare made with rfl | rfl
  · exact .none
  · exact stored.workingIn here

/-- A clear call keeps the stored directories canonical. -/
theorem Call.Clear.run (clear : call.Clear prepared) (inHere : prepared.here = call.here)
    (holds : Holds usualRoom prepared file directories) (stored : AreCanonical prepared directories)
    (effect : Effect (call.world prepared) file directories call.command after) :
    ∃ others, Start usualRoom after file others ∧ AreCanonical after others := by
  cases isCommand : call.command with
  | add raw =>
    rw [isCommand] at effect
    cases effect with
    | nothing => exact ⟨directories, holds.start, stored⟩
    | adds isPlace isDirectory new written =>
      obtain ⟨text, place, -, -, rfl, plain⟩ := clear.place_eq inHere isCommand isPlace
      obtain ⟨leads, inTree⟩ := plain.of_isDirectory? isDirectory
      have canonical := isCanonical_of_leads plain.areNames leads inTree
      obtain ⟨holdsAfter, alike⟩ := holds.of_write enoughRoom written
      exact ⟨_, holdsAfter.start, (stored.concat new canonical).of_extends alike.extends_⟩
  | remove raw =>
    rw [isCommand] at effect
    cases effect with
    | nothing => exact ⟨directories, holds.start, stored⟩
    | removes written =>
      obtain ⟨holdsAfter, alike⟩ := holds.of_write enoughRoom written
      exact ⟨_, holdsAfter.start, (stored.erase _).of_extends alike.extends_⟩
  | list | analyze | version =>
    rw [isCommand] at effect
    cases effect
    exact ⟨directories, holds.start, stored⟩

/-- Clear calls keep the stored directories canonical, starting with none. -/
theorem Reached.areCanonical (start : Start usualRoom origin file [])
    (reached : Reached Call.Clear file origin system) :
    ∃ directories, Start usualRoom system file directories ∧ AreCanonical system directories := by
  induction reached with
  | origin => exact ⟨[], start, .none⟩
  | @call system call _ sees isClear inductionHypothesis =>
    obtain ⟨directories, start, stored⟩ := inductionHypothesis
    -- From another working directory the stored paths lead to the same places.
    obtain ⟨prepared, made, inHere, holds, run⟩ := Call.run_eq start sees
    rw [run]
    exact (isClear prepared made).run inHere holds (stored.prepare (start.workingIn sees) made)
      (perform_effect (call.world prepared) holds call.command)

/-! ## Other spellings -/

/-- A directory that is stored is not stored again, however it is typed. -/
theorem Call.Clear.known {text : List Char} {place : List Name} (clear : call.Clear prepared)
    (inHere : prepared.here = call.here) (isAdd : call.command = .add raw)
    (typed : call.environment.typedText raw = .ok text) (member : directory ∈ directories)
    (canonical : IsCanonical prepared directory place)
    (spelled : prepared.walk .existing (Path.parse text) = .ok place ∨
      prepared.Routed (Path.parse text) place) {outcome : Outcome}
    (added : Adding (call.world prepared) file directories raw outcome) :
    outcome.system = prepared ∧
      ∀ base, call.environment.place prepared raw = .ok base →
        outcome.ending = .exit successCode ∧
          outcome.output = directoryMessage directory.toList "is already stored." := by
  -- Whatever the typed path is resolved to, it is the canonical path of the place.
  have resolves (base : Path) (isPlace : call.environment.place prepared raw = .ok base) :
      base = .ofNames place := by
    obtain ⟨other, reached, sameText, routed, rfl, -⟩ := clear.place_eq inHere isAdd isPlace
    cases typed.symm.trans sameText
    rcases spelled with walked | toPlace
    · rw [routed.place_eq (System.isParsed_parse text) (System.walk_existing_iff.mp walked)]
    · obtain ⟨same, typedToo, resolved⟩ := Environment.place_ok_iff.mp isPlace
      cases typed.symm.trans typedToo
      exact toPlace.eq_of_resolve resolved
  obtain ⟨leads, inTree⟩ := canonical.hasDirectory
  have isDirectory := System.isDirectory?_of_leads leads inTree
  have stored : directory = String.ofList (Path.ofNames place).text := canonical.text
  cases added with
  | crashed cause fails | missing fails =>
    refine ⟨rfl, fun base isPlace => ?_⟩
    cases resolves base isPlace
    exact absurd isDirectory (fails _ isPlace)
  | known notes isPlace =>
    refine ⟨rfl, fun _ _ => ⟨rfl, ?_⟩⟩
    cases resolves _ isPlace
    rw [stored, String.toList_ofList]
    rfl
  | saved notes isPlace _ new =>
    cases resolves _ isPlace
    exact absurd (stored ▸ member) new

/-- A call adds a stored directory in another spelling: the system goes to it along the typed path, or the
typed path is resolved to it. -/
structure Call.Respells (call : Call) (system : System) (directory : String) (raw : List Char) : Prop where
  isAdd : call.command = .add raw
  spelled : ∃ text place, call.environment.typedText raw = .ok text ∧
    system.walk .existing (Path.parse directory.toList) = .ok place ∧
    (system.walk .existing (Path.parse text) = .ok place ∨ system.Routed (Path.parse text) place)

/-- Whatever calls are made on a store that starts without directories, as long as they are clear: no
directory is stored twice, and each by its canonical path.  So two stored paths lead to different
directories, and a call that adds a stored directory in another spelling leaves the store as it is. -/
theorem stored_canonical (start : Start usualRoom origin file [])
    (reached : Reached Call.Clear file origin system) :
    ∃ directories, Store.Reads usualRoom system file directories ∧ AreCanonical system directories ∧
      (∀ first ∈ directories, ∀ second ∈ directories, ∀ place,
        system.walk .existing (Path.parse first.toList) = .ok place →
          system.walk .existing (Path.parse second.toList) = .ok place → first = second) ∧
      ∀ (call : Call) (raw : List Char), ∀ directory ∈ directories, call.Sees file system →
        call.Clear (system.workingIn call.here) →
        call.Respells (system.workingIn call.here) directory raw →
        Store.Reads usualRoom (call.run file system).system file directories ∧
        ∀ base, call.environment.place (system.workingIn call.here) raw = .ok base →
          (call.run file system).ending = .exit successCode ∧
            (call.run file system).output = directoryMessage directory.toList "is already stored." := by
  obtain ⟨directories, start, stored⟩ := reached.areCanonical start
  refine ⟨directories, start.reads, stored, ?_, ?_⟩
  · intro first firstMember second secondMember place firstLeads secondLeads
    obtain ⟨firstPlace, firstCanonical⟩ := stored.canonical first firstMember
    obtain ⟨secondPlace, secondCanonical⟩ := stored.canonical second secondMember
    cases firstCanonical.leads.symm.trans firstLeads
    cases secondCanonical.leads.symm.trans secondLeads
    exact firstCanonical.unique secondCanonical
  · rintro call raw directory member sees clear ⟨isAdd, text, place, typed, leads, spelled⟩
    obtain ⟨prepared, made, inHere, holds, run⟩ := Call.run_eq start sees
    -- A store with a directory has been prepared before.
    obtain rfl : prepared = system.workingIn call.here := by
      rcases (start.workingIn sees).eq_of_prepare made with rfl | same
      · cases member
      · exact same
    obtain ⟨own, canonical⟩ := (stored.workingIn call.here).canonical directory member
    cases canonical.leads.symm.trans leads
    have added := adding (call.world (system.workingIn call.here)) holds raw
    obtain ⟨unchanged, reported⟩ := clear.known inHere isAdd typed member canonical spelled added
    rw [run, isAdd]
    have still := (start.workingIn sees).reads
    rw [← unchanged] at still
    exact ⟨still, reported⟩

/-- A directory and a link to it, in a directory. -/
def linkedTree : System :=
  ⟨.directory ['w'] (.directory ['r'] .nil (.link ['l'] ['r'] .nil)) .nil, []⟩

/-- A store in a directory that is not there yet. -/
def linkedStore : Path :=
  ⟨.root, [['c'], ['s']]⟩

/-- Without variables, and in the directory of the link. -/
def callInTree (command : Command) : Call :=
  ⟨[['w']], ⟨[], [], "/"⟩, fun _ => ⟨.whole 0, .whole 0⟩, command⟩

theorem start_absent {root : Listing} (missing : root.find? ['c'] = none) :
    Start usualRoom ⟨root, []⟩ linkedStore [] := by
  have vacant : System.IsVacant ⟨root, []⟩ ⟨.root, []⟩ [] [['c'], ['s']] := by
    refine ⟨⟨⟨by decide, by decide⟩, .arrived⟩, ⟨_, rfl⟩, ?_, ?_⟩
    · intro name isHead
      cases isHead
      exact (Listing.at?_singleton root ['c']).trans missing
    · intro name member
      simp only [List.mem_cons, List.not_mem_nil, or_false] at member
      rcases member with rfl | rfl <;> exact ⟨by decide, by decide, by decide⟩
  exact .absent rfl (by decide) ⟨by decide, by decide⟩ vacant

/-- The tree behind the store with some directories. -/
def linkedTreeWith (directories : Record) : System :=
  ⟨.directory ['w'] (.directory ['r'] .nil (.link ['l'] ['r'] .nil))
    (.directory ['c'] (.file ['s'] (.ofBytes (Store.writtenBytes directories)) .nil) .nil), [['w']]⟩

theorem linkedTree_prepared :
    Store.prepare (linkedTree.workingIn [['w']]) linkedStore = .ok (linkedTreeWith []) := by
  rfl

theorem place_link :
    (callInTree (.add ['l'])).environment.place (linkedTreeWith []) ['l'] = .ok ⟨.root, [['w'], ['r']]⟩ := by
  decide +kernel

theorem linkedTree_after :
    ((callInTree (.add ['l'])).run linkedStore linkedTree).system = linkedTreeWith ["/w/r"] := by
  have sees : (callInTree (.add ['l'])).Sees linkedStore linkedTree := nofun
  obtain ⟨prepared, made, -, holds, run⟩ := Call.run_eq (start_absent rfl) sees
  cases linkedTree_prepared.symm.trans made
  have isDirectory : (linkedTreeWith []).isDirectory? ⟨.root, [['w'], ['r']]⟩ = .ok true := by decide +kernel
  have added := adding ((callInTree (.add ['l'])).world (linkedTreeWith [])) holds ['l']
  have written := added.of_new place_link isDirectory List.not_mem_nil
  have same : Store.write (linkedTreeWith []) linkedStore ["/w/r"] = .ok (linkedTreeWith ["/w/r"]) := rfl
  exact (congrArg Outcome.system run).trans (Except.ok.inj (written.symm.trans same))

theorem linkedTree_stored :
    Store.read usualRoom (linkedTreeWith ["/w/r"]) linkedStore = .ok (.plain ["/w/r"]) :=
  (Store.written_of_nodeAt enoughRoom (by decide) rfl).2.2

theorem routed_name (directories : Record) :
    (linkedTreeWith directories).Routed (Path.parse ['r']) [['w'], ['r']] :=
  ⟨⟨.above 0, [['r']]⟩, 0, .down ⟨rfl, by decide, by decide⟩ (by decide) (fun _ => nofun) .arrived, rfl⟩

theorem routed_link (directories : Record) :
    (linkedTreeWith directories).Routed (Path.parse ['l']) [['w'], ['r']] := by
  have isLink : (linkedTreeWith directories).at? [['w'], ['l']] = some (.link ['r']) := rfl
  refine ⟨⟨.above 0, [['r']]⟩, 1, .link ⟨rfl, by decide, by decide⟩ (by decide) isLink ?_ .arrived, rfl⟩
  exact .down ⟨rfl, by decide, by decide⟩ (by decide) (fun _ => nofun) .arrived

theorem callInTree_clear {raw : List Char} {place : List Name} {directories : Record}
    (typed : (callInTree .list).environment.typedText raw = .ok raw)
    (routed : (linkedTreeWith directories).Routed (Path.parse raw) place) :
    (callInTree (.add raw)).Clear (linkedTreeWith directories) where
  areNames name member := by
    rw [List.mem_singleton.mp member]
    exact ⟨by decide, by decide, by decide, by decide⟩
  isDirectory := ⟨_, rfl⟩
  routed other text base isAdd otherTyped _ := by
    cases isAdd
    cases typed.symm.trans otherTyped
    exact ⟨place, routed⟩

/-- A directory that has been stored by a link to it is known by its own name. -/
theorem stored_canonical_sample :
    Reached Call.Clear linkedStore linkedTree (linkedTreeWith ["/w/r"]) ∧
      AreCanonical (linkedTreeWith ["/w/r"]) ["/w/r"] ∧
      ((callInTree (.add ['r'])).run linkedStore (linkedTreeWith ["/w/r"])).output =
        directoryMessage "/w/r".toList "is already stored." := by
  have reached : Reached Call.Clear linkedStore linkedTree (linkedTreeWith ["/w/r"]) := by
    rw [← linkedTree_after]
    refine .call .origin nofun fun prepared made => ?_
    cases linkedTree_prepared.symm.trans made
    exact callInTree_clear rfl (routed_link [])
  obtain ⟨directories, ⟨notes, known⟩, canonical, -, respelled⟩ := stored_canonical (start_absent rfl) reached
  cases linkedTree_stored.symm.trans known
  have respells : (callInTree (.add ['r'])).Respells (linkedTreeWith ["/w/r"]) "/w/r" ['r'] :=
    ⟨rfl, ['r'], [['w'], ['r']], rfl, rfl, .inr (routed_name _)⟩
  have isPlace : (callInTree (.add ['r'])).environment.place (linkedTreeWith ["/w/r"]) ['r'] =
      .ok ⟨.root, [['w'], ['r']]⟩ := by decide +kernel
  obtain ⟨-, reported⟩ := respelled (callInTree (.add ['r'])) ['r'] "/w/r" List.mem_cons_self nofun
    (callInTree_clear rfl (routed_name _)) respells
  exact ⟨reached, canonical, (reported _ isPlace).2⟩

/-- The files after adding the link by its long spelling, and then by its short one. -/
def linkedTreeTwice : System :=
  ((callInTree (.add "/w/l".toList)).run linkedStore
    ((callInTree (.add longSpelling)).run linkedStore linkedTree).system).system

/-- A relative path that is too long for the system is not freed of its links, so one directory is stored
twice. -/
theorem stored_twice_by_long_path :
    Start usualRoom linkedTree linkedStore [] ∧
      (Store.read usualRoom linkedTreeTwice linkedStore).toOption.map Noted.value = some ["/w/l", "/w/r"] ∧
      linkedTree.walk .existing (Path.parse "/w/l".toList) = .ok [['w'], ['r']] ∧
      linkedTree.walk .existing (Path.parse "/w/r".toList) = .ok [['w'], ['r']] :=
  ⟨start_absent rfl, by decide +kernel, rfl, rfl⟩
end ProjectGauge
