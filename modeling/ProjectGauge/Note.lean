/-!
# Notes

A note is a line for the log: what went wrong without stopping the work. Warnings are about a part of
the work, errors about the whole of it.
-/

namespace ProjectGauge

/-- How grave a note is. -/
inductive NoteLevel where
  | warning
  | error
  deriving DecidableEq

/-- A line for the log. -/
structure Note where
  level : NoteLevel
  message : String
  deriving DecidableEq

namespace Note

/-- A note about a part of the work. -/
def warning (message : String) : Note :=
  ⟨.warning, message⟩

/-- A note about the whole of the work. -/
def error (message : String) : Note :=
  ⟨.error, message⟩

def text (note : Note) : String :=
  (match note.level with
    | .warning => "WARNING "
    | .error => "ERROR ") ++ note.message

end Note

/-- A result with the notes that were taken on the way. -/
structure Noted (α : Type) where
  value : α
  notes : List Note

namespace Noted

/-- A result without notes. -/
def plain (value : α) : Noted α :=
  ⟨value, []⟩

/-- A result with one note. -/
def withNote (value : α) (note : Note) : Noted α :=
  ⟨value, [note]⟩

end Noted
end ProjectGauge
