import MiniTemplate.Compile
import MiniTemplate.Files.Fault
import MiniTemplate.Files.Path

/-!
# Assets

The markup of a template is handed over as an asset: a file name and a text. What takes assets is
an emitter, which may refuse one; `generate` compiles a template and hands over the result.
-/

namespace MiniTemplate

/-- A text under a file name. -/
structure Asset where
  fileName : String
  source : String
deriving DecidableEq

/-- Why an emitter did not take an asset. -/
inductive EmitFault where
  /-- A directory for it could not be made. -/
  | makeDir (dir : Path) (cause : FileFault)
  | write (file : Path) (cause : FileFault)
  | refused (reason : String)
deriving DecidableEq

def EmitFault.message : EmitFault → String
  | makeDir dir cause => s!"failed to create {dir.display}: {cause.message}"
  | write file cause => s!"failed to write {file.display}: {cause.message}"
  | refused reason => reason

/-- Why a template was not handed over. -/
inductive GenerateError where
  | template (f : Fault)
  | emit (fileName : String) (cause : EmitFault)
deriving DecidableEq

def GenerateError.message : GenerateError → String
  | template f => f.message
  | emit fileName _ => s!"failed to emit {fileName}"

/-- An emitter takes an asset or says why it does not. -/
abbrev Emitter (m : Type → Type) := Asset → m (Except EmitFault Unit)

/-- Compiles a template and hands the markup over under the file name of the options. -/
def generate {m : Type → Type} [Monad m] (emit : Emitter m) (o : Options) (t : Template) :
    m (Except GenerateError Unit) :=
  match compile o t with
  | .error f => pure (.error (.template f))
  | .ok source => do
    match ← emit ⟨o.fileName, source⟩ with
    | .ok () => pure (.ok ())
    | .error cause => pure (.error (.emit o.fileName cause))

end MiniTemplate
