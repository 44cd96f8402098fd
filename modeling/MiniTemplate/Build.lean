import MiniTemplate.Config.Decode
import MiniTemplate.Json.Reader
import MiniTemplate.OutputDir
import MiniTemplate.Template.Decode

/-!
# Builds

A build reads a template and perhaps a configuration, compiles the template for a dialect and
writes the markup to the output directory. The first thing that goes wrong ends it.
-/

namespace MiniTemplate

/-- What a build is asked for. -/
structure BuildRequest where
  input : Path
  outDir : Option Path := none
  target : Dialect := .weixin
  config : Option Path := none
deriving DecidableEq

/-- Why a build has ended without a result. -/
inductive BuildError where
  | unreadable (file : Path) (cause : FileFault)
  | invalidTemplate (file : Path)
  | invalidConfig (file : Path)
  | notGenerated (file : Path) (cause : GenerateError)
  | nothingEmitted (file : Path)
deriving DecidableEq

namespace BuildError

def message : BuildError → String
  | unreadable file _ => s!"failed to read {file.display}"
  | invalidTemplate file => s!"invalid template AST in {file.display}"
  | invalidConfig file => s!"invalid config {file.display}"
  | notGenerated file _ => s!"failed to compile {file.display}"
  | nothingEmitted file => s!"nothing emitted for {file.display}"

/-- What can be behind an error: something that has a wording, or a document of the wrong form. -/
inductive Cause where
  | text (message : String)
  | document

/-- What is behind the error, each cause followed by its own. -/
def causes : BuildError → List Cause
  | unreadable _ cause => [.text cause.message]
  | invalidTemplate _ => [.document]
  | invalidConfig _ => [.document]
  | notGenerated _ (.template f) => [.text f.message]
  | notGenerated _ (.emit fileName cause) =>
    [.text (GenerateError.emit fileName cause).message, .text cause.message]
  | nothingEmitted _ => []

end BuildError

def defaultOutDir : Path := .ofString "target/mptpl-gen"

namespace BuildRequest

/-- The name of the file for the markup. An input whose name spells no text does not give its name
to the markup. -/
def fileName (r : BuildRequest) : String :=
  (r.input.fileStem?.bind Name.text?).getD "component" ++ "." ++ r.target.extension

def outputDir (r : BuildRequest) : Path := r.outDir.getD defaultOutDir

def options (r : BuildRequest) (c : Config) : Options :=
  c.apply (.ofDialect r.target r.fileName)

end BuildRequest

def Template.parse? (text : String) : Option Template :=
  (Json.readDocument? text).bind Template.decode?

def Config.parse? (text : String) : Option Config :=
  (Json.readDocument? text).bind Config.decode?

namespace Build

variable {m : Type → Type} [Monad m] [FileSystem m]

/-- Reads a document of some form. -/
def load {α : Type} (parse? : String → Option α) (invalid : Path → BuildError) (file : Path) :
    m (Except BuildError α) := do
  match ← FileSystem.readText file with
  | .error cause => pure (.error (.unreadable file cause))
  | .ok text =>
    match parse? text with
    | none => pure (.error (invalid file))
    | some x => pure (.ok x)

def loadConfig : Option Path → m (Except BuildError Config)
  | none => pure (.ok {})
  | some file => load Config.parse? .invalidConfig file

/-- Runs a build. The result is the file that holds the markup. -/
def run (r : BuildRequest) : m (Except BuildError Path) := do
  match ← load Template.parse? .invalidTemplate r.input with
  | .error e => pure (.error e)
  | .ok t =>
    match ← loadConfig r.config with
    | .error e => pure (.error e)
    | .ok c =>
      let o := r.options c
      match ← (generate OutputDir.emit o t).run { dir := r.outputDir } with
      | (.error e, _) => pure (.error (.notGenerated r.input e))
      | (.ok (), out) =>
        match out.written.head? with
        | some file => pure (.ok file)
        | none => pure (.error (.nothingEmitted r.input))

/-- What is printed after a build. -/
def report (file : Path) : String := s!"Generated: {file.display}\n"

/-- What a build leaves to its caller: the result, and what was printed. -/
structure Outcome where
  result : Except BuildError Path
  stdout : String := ""

/-- Runs a build and prints where the markup is. -/
def command (r : BuildRequest) : m Outcome := do
  match ← run r with
  | .ok file => pure { result := .ok file, stdout := report file }
  | .error e => pure { result := .error e }

end Build

end MiniTemplate
