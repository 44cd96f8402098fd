import MiniTemplate.Asset
import MiniTemplate.Files.System

/-!
# Output directories

An emitter that writes every asset to a file below one directory, makes the directories that it
needs, and keeps the list of the files that it has written.
-/

namespace MiniTemplate

/-- A directory for assets, and what has been written to it. -/
structure OutputDir where
  dir : Path
  written : List Path := []

namespace OutputDir

variable {m : Type → Type} [Monad m] [FileSystem m]

def makeParent (file : Path) : m (Except EmitFault Unit) :=
  match file.parent? with
  | none => pure (.ok ())
  | some dir => do
    match ← FileSystem.makeDirs dir with
    | .ok () => pure (.ok ())
    | .error cause => pure (.error (.makeDir dir cause))

def emit : Emitter (StateT OutputDir m) := fun a out => do
  let file := out.dir.join (Path.ofString a.fileName)
  match ← makeParent file with
  | .error cause => pure (.error cause, out)
  | .ok () =>
    match ← FileSystem.writeText file a.source with
    | .error cause => pure (.error (.write file cause), out)
    | .ok () => pure (.ok (), { out with written := out.written ++ [file] })

end OutputDir

end MiniTemplate
