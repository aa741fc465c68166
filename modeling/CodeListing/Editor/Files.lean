import CodeListing.Failure.Service
import CodeListing.Path.Basic
import CodeListing.Text.Lines

/-!
# Files

The lines of a file come from the editor if the file is loaded in a buffer there, and else from the
disk. `Files` is what answers such questions; `Access` is one question asked, so that results can
tell what was asked for them.
-/

namespace CodeListing

/-- Answers questions about files. -/
structure Files where
  isLoaded : Path → Except ServiceError Bool
  readBuffer : Path → Except ServiceError (List String)
  readDisk : Path → Except ServiceError (List String)

/-- A question asked about a file. -/
inductive Access where
  | check (path : Path)
  | buffer (path : Path)
  | disk (path : Path)
  deriving Repr, DecidableEq

/-- The path that is read, if the question is a read. -/
def Access.readPath? : Access → Option Path
  | .check _ => none
  | .buffer path => some path
  | .disk path => some path

/-- A result and the questions that were asked for it, in order. -/
structure Traced (α : Type) where
  accesses : List Access
  result : α

/-! ### The disk -/

/-- What stands at a path on a disk. -/
inductive DiskEntry where
  | file (bytes : List UInt8)
  | directory
  | missing
  deriving Repr, DecidableEq

/-- The lines of a file on a disk. The texts of the failures are those of the operating system. -/
def DiskEntry.lines : DiskEntry → Except ServiceError (List String)
  | .file bytes =>
    match Text.ofBytes? bytes with
    | some text => .ok (Text.lines text)
    | none => .error (.io "stream did not contain valid UTF-8")
  | .directory => .error (.io "Is a directory (os error 21)")
  | .missing => .error (.io "No such file or directory (os error 2)")

/-- Access to a disk without an editor: nothing is loaded, and every read is one from the disk. -/
def Files.ofDisk (entryAt : Path → DiskEntry) : Files where
  isLoaded _ := .ok false
  readBuffer path := (entryAt path).lines
  readDisk path := (entryAt path).lines

end CodeListing
