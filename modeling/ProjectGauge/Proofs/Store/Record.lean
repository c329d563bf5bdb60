import ProjectGauge.Store.Access
import ProjectGauge.Proofs.Files.Volume
import ProjectGauge.Proofs.Json.Extent
import ProjectGauge.Proofs.Json.Field
import ProjectGauge.Proofs.Json.Nesting
import ProjectGauge.Proofs.Text.Encoding

/-!
# Records in files

* `ofBytes_bytes` reads a record back that has been written.
* `length_read_le` bounds the directories of a store by the volume of the file tree.
-/

namespace ProjectGauge

open Files

namespace Json

/-- A list of texts passes as it is. -/
theorem checkItems_texts (position : Nat) (texts : List String) :
    checkItems (scalar Value.toText) position (texts.map .text) = .ok texts := by
  induction texts generalizing position with
  | nil => rfl
  | cons text rest inductionHypothesis =>
    rw [List.map_cons, checkItems, inductionHypothesis]
    rfl

end Json

namespace Record

/-- The record of a value that has been made of a record. -/
theorem ofValue_value (record : Record) : ofValue record.value = .ok record := by
  have found : Json.lookup field [(field, Json.Value.array (record.map .text))] =
      some (.array (record.map .text)) := if_pos rfl
  unfold ofValue value
  dsimp only
  rw [Json.optionalField, found]
  dsimp only
  rw [Json.listOf, Json.checkItems_texts]
  rfl

/-- What a record has been written as is read back, whatever characters its directories have.  The reader
needs room for an object with a list in it. -/
theorem ofBytes_bytes {room : Nat} (enough : 2 ≤ room) (record : Record) :
    ofBytes room record.bytes = .ok record := by
  -- What is written is in ASCII, so it has no line ends that would be read as others.
  have plain : Text.IsPlain record.text := Json.isPlain_object field record
  have shallow : Json.tooDeep? room record.text = none := Json.tooDeep?_object enough field record
  have read : Json.read record.text = .ok record.value := Json.read_object field record
  unfold ofBytes bytes
  rw [Text.Utf8.decode_eq_ok_iff.mpr rfl, mapError_ok, ok_bind, Text.unifyNewlines_plain plain,
    Json.readWithin_eq shallow, read, mapError_ok, mapError_ok, ok_bind, ofValue_value]

theorem length_ofValue_le {value : Json.Value} {record : Record} (read : ofValue value = .ok record) :
    record.length ≤ value.size := by
  unfold ofValue at read
  split at read
  · rename_i members
    have checked := mapError_eq_ok.mp read
    unfold Json.optionalField at checked
    split at checked
    · rename_i member found
      have passed := mapError_eq_ok.mp checked
      obtain ⟨items, rfl, each⟩ := Json.listOf_eq_ok.mp passed
      -- The list is a part of the object, and its items are parts of the list.
      have inObject := Json.size_lookup_le found
      have inList := Json.length_le_sizeOfItems items
      rw [← each.length_eq]
      simp only [Json.Value.size] at *
      omega
    · cases checked
      exact Nat.zero_le _
  · cases read

/-- A record has no more directories than its file has bytes. -/
theorem length_ofBytes_le {room : Nat} {bytes : List UInt8} {record : Record}
    (read : ofBytes room bytes = .ok record) : record.length ≤ bytes.length := by
  unfold ofBytes at read
  obtain ⟨text, decoded, read⟩ := bind_eq_ok.mp read
  obtain ⟨value, valueRead, read⟩ := bind_eq_ok.mp read
  have valueRead := Json.read_of_readWithin (mapError_eq_ok.mp valueRead)
  calc record.length
      ≤ value.size := length_ofValue_le read
    _ ≤ (Text.unifyNewlines text).length := Json.size_read_le valueRead
    _ ≤ text.length := Text.length_unifyNewlines_le text
    _ ≤ bytes.length := Text.Utf8.length_of_decode (mapError_eq_ok.mp decoded)

end Record

namespace Store

/-- A store is read as the record in its file, if there is one. -/
theorem read_of_record {room : Nat} {system : System} {file : Path} {record : Record}
    (inFile : ((system.bytesAt file).toOption.bind fun bytes => (Record.ofBytes room bytes).toOption) =
      some record) : read room system file = .ok (.plain record) := by
  obtain ⟨bytes, bytesRead, recordRead⟩ := Option.bind_eq_some_iff.mp inFile
  unfold read recordOf
  rw [toOption_eq_some.mp bytesRead]
  dsimp only
  rw [toOption_eq_some.mp recordRead]

/-- A store has no more directories than the files of the tree have bytes. -/
theorem length_read_le {room : Nat} {system : System} {file : Path} {stored : Noted Record}
    (known : read room system file = .ok stored) : stored.value.length ≤ system.root.volume := by
  unfold read at known
  split at known
  · rename_i bytes bytesRead
    unfold recordOf at known
    split at known
    · rename_i record recordRead
      cases known
      exact Nat.le_trans (Record.length_ofBytes_le recordRead) (System.length_bytesAt_le bytesRead)
    · cases known
    · cases known
      exact Nat.zero_le _
  · split at known
    · cases known
      exact Nat.zero_le _
    · cases known
      exact Nat.zero_le _
    · cases known

end Store
end ProjectGauge
