import ProjectGauge.Json.Field
import ProjectGauge.Json.Nesting
import ProjectGauge.Json.Writer
import ProjectGauge.Text.Newline
import ProjectGauge.Text.Utf8

/-!
# Records of directories

A record holds directories in the order in which they were added. As a file it is a JSON object with
one list; whatever else stands in the object is passed over. A file with too many open brackets cannot
be read; unlike the other faults of a file, this one does not make it an empty record.

The directories are texts of characters: where a file spells a surrogate without a partner, which no
path that is typed has, the record holds the replacement character in its place.

* `Record.add?` and `Record.remove?` change a record, or say that there is nothing to change.
* `Record.ofBytes` and `Record.bytes` read and write it as a file.
-/

namespace ProjectGauge

/-- The directories of a record. -/
abbrev Record := List String

/-- Why bytes are no record. -/
inductive RecordError where
  | undecodable (error : Text.Utf8.DecodeError)
  | malformed (error : Json.ReadFailure)
  | notObject
  | invalid (issues : List Json.Issue)

def RecordError.message : RecordError → String
  | .undecodable error => error.message
  | .malformed error => error.message
  | .notObject => "Input should be a valid dictionary"
  | .invalid issues => Json.issuesMessage issues

namespace Record

/-! ## Changes -/

/-- The record with a directory at its end, if it is not there yet. -/
def add? (directory : String) (record : Record) : Option Record :=
  if directory ∈ record then none else some (record ++ [directory])

/-- The record without the first occurrence of a directory, if there is one. -/
def remove? (directory : String) (record : Record) : Option Record :=
  if directory ∈ record then some (record.erase directory) else none

/-! ## Files -/

/-- The name of the list in a file. -/
def field : String := "directories"

/-- The record of a JSON value; an object without the list is an empty record. -/
def ofValue : Json.Value → Except RecordError Record
  | .object members =>
    (Json.optionalField members field [] (Json.listOf (Json.scalar Json.Value.toText))).mapError
      .invalid
  | _ => .error .notObject

/-- The record in the bytes of a file, with room for some open brackets. -/
def ofBytes (room : Nat) (bytes : List UInt8) : Except RecordError Record := do
  let text ← (Text.Utf8.decode bytes).mapError .undecodable
  ofValue (← (Json.readWithin room (Text.unifyNewlines text)).mapError .malformed)

def value (record : Record) : Json.Value :=
  .object [(field, .array (record.map .text))]

/-- The record as the text of a file, with a line for each directory. -/
def text (record : Record) : List Char :=
  record.value.indented 0

def bytes (record : Record) : List UInt8 :=
  Text.Utf8.encode record.text

end Record
end ProjectGauge
