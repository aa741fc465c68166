import CodeListing.Editor.Files
import CodeListing.Place
import CodeListing.Text.Blank
import CodeListing.Uri.FilePath

/-!
# The lines that references point to

The files that locations point to are read once each, in the order in which they are first
mentioned; two spellings of one path are one file, and the first spelling is the one that is read. A
file that is loaded in the editor has to be readable there. A file on the disk that cannot be read
has no lines, which hides the lines of no other file. A table has an entry for each file before any
file is read, and what is then read for the keys of the table is put into its entries in their order.
-/

namespace CodeListing

/-- Each path once, by what it names, in the order and the spelling of its first mention. -/
def Path.distinct : List Path → List Path
  | [] => []
  | p :: ps => p :: (distinct ps).filter fun q => !p.same q

/-- The files that locations point to. -/
def Location.paths (locations : List Location) : List Path :=
  Path.distinct (locations.map (·.uri.toPath))

/-- The lines of files, by path. -/
abbrev LineTable := List (Path × List String)

namespace LineTable

/-- The lines of a file, in whatever spelling it is asked for. -/
def lookup (lines : LineTable) (path : Path) : Option (List String) :=
  (lines.find? fun entry => entry.1.same path).map (·.2)

/-- The lines of one file: from its buffer if it is loaded, else from the disk. -/
def read (files : Files) (path : Path) : Traced (Except ServiceError (List String)) :=
  match files.isLoaded path with
  | .error e => ⟨[.check path], .error e⟩
  | .ok true => ⟨[.check path, .buffer path], files.readBuffer path⟩
  | .ok false => ⟨[.check path, .disk path], .ok ((files.readDisk path).toOption.getD [])⟩

/-- Reads files one after another up to the first failure. -/
def readAll (files : Files) : List Path → Traced (Except ServiceError (List (List String)))
  | [] => ⟨[], .ok []⟩
  | path :: paths =>
    let first := read files path
    match first.result with
    | .error e => ⟨first.accesses, .error e⟩
    | .ok content =>
      let rest := readAll files paths
      ⟨first.accesses ++ rest.accesses, rest.result.map (content :: ·)⟩

/-- A table of files that have no lines as yet. -/
def ofPaths (paths : List Path) : LineTable := paths.map fun path => (path, [])

/-- Puts contents into the entries by their positions. Entries for which there is no content keep the
lines that they have. -/
def fill : LineTable → List (List String) → LineTable
  | (path, _) :: entries, content :: contents => (path, content) :: fill entries contents
  | entries, _ => entries

/-- The lines of all the files that locations point to. -/
def load (files : Files) (locations : List Location) : Traced (Except ServiceError LineTable) :=
  let entries := ofPaths (Location.paths locations)
  let contents := readAll files (entries.map (·.1))
  ⟨contents.accesses, contents.result.map entries.fill⟩

/-- The text that a line shows: the line without the blanks around it, if anything is left. -/
def text? (content : List String) (line : UInt32) : Option String :=
  (content[line.toNat]?.map Text.trim).filter (· ≠ "")

end LineTable

end CodeListing
