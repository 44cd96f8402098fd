import MiniTemplate.Files.Fault
import MiniTemplate.Files.Path

/-!
# What is done with files

The few operations on files that the library asks for, so that the same code runs on a `Disk` in
memory and on the files of the machine.
-/

namespace MiniTemplate

class FileSystem (m : Type → Type) where
  /-- The text of a file. -/
  readText : Path → m (Except FileFault String)
  /-- Makes one directory. -/
  makeDir : Path → m (Except FileFault Unit)
  /-- There is a directory at the path. -/
  isDir : Path → m Bool
  /-- Writes a file anew, in place of one that was there. -/
  writeText : Path → String → m (Except FileFault Unit)

namespace FileSystem

variable {m : Type → Type} [Monad m] [FileSystem m]

/-- Makes one directory, unless it is there. -/
def ensureDir (p : Path) : m (Except FileFault Unit) := do
  match ← makeDir p with
  | .ok () => pure (.ok ())
  | .error f => do
    if ← isDir p then pure (.ok ()) else pure (.error f)

/-- Makes a directory and those above it, as far as they are missing. -/
def makeDirs (p : Path) : m (Except FileFault Unit) :=
  if p.isEmpty then pure (.ok ())
  else do
    match ← makeDir p with
    | .ok () => pure (.ok ())
    | .error .notFound =>
      match _h : p.parent? with
      | none => pure (.error (.other "failed to create whole tree"))
      | some q => do
        match ← makeDirs q with
        | .ok () => ensureDir p
        | .error f => pure (.error f)
    | .error f => do
      if ← isDir p then pure (.ok ()) else pure (.error f)
termination_by p.weight
decreasing_by exact Path.weight_parent? _h

end FileSystem

end MiniTemplate
