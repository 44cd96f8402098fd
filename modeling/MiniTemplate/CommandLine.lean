import MiniTemplate.Build

/-!
# The command line

`build <input> [--out-dir D] [--target T] [--config C]`, with the options in any order, each as two
arguments or as one with an equals sign. A double hyphen ends the options. Everything else is wrong
usage, except for asking about the version or the usage itself.
-/

namespace MiniTemplate

inductive Command where
  | build (r : BuildRequest)
  | version
  | help
deriving DecidableEq

namespace CommandLine

/-- Why arguments ask for no build: they are wrong, or they ask for help. -/
inductive Refusal where
  | usage
  | help
deriving DecidableEq

inductive Setting where
  | outDir
  | target
  | config
deriving DecidableEq

def Setting.ofName? (name : String) : Option Setting :=
  if name = "--out-dir" then some .outDir
  else if name = "--target" then some .target
  else if name = "--config" then some .config
  else none

/-- What the arguments of a build have said so far. -/
structure Draft where
  input : Option Path := none
  outDir : Option Path := none
  target : Option Dialect := none
  config : Option Path := none

def path? (s : String) : Option Path := if s = "" then none else some (.ofString s)

/-- The draft with an option set, which must not be set before. -/
def Draft.set? (d : Draft) (value : String) : Setting → Option Draft
  | .outDir =>
    if d.outDir.isSome then none else (path? value).map fun p => { d with outDir := some p }
  | .target =>
    if d.target.isSome then none
    else (Dialect.ofName? value).map fun t => { d with target := some t }
  | .config =>
    if d.config.isSome then none else (path? value).map fun p => { d with config := some p }

/-- The draft with the input, which must not be given before. -/
def Draft.setInput? (d : Draft) (value : String) : Option Draft :=
  if d.input.isSome then none else (path? value).map fun p => { d with input := some p }

/-- The argument cannot stand for a value: it starts with a hyphen, and is not just one. -/
def looksLikeOption (arg : String) : Bool := arg.toList.head? == some '-' && arg != "-"

/-- An argument that asks for help: the long form, or the letter `h` right after a hyphen. -/
def asksForHelp (arg : String) : Bool := arg == "--help" || arg.toList.take 2 == ['-', 'h']

def asksForVersion (arg : String) : Bool := arg == "--version" || arg.toList.take 2 == ['-', 'V']

def cutValue? (arg : String) : Option (String × String) :=
  match arg.toList.dropWhile (· != '=') with
  | [] => none
  | _ :: value => some (String.ofList (arg.toList.takeWhile (· != '=')), String.ofList value)

/-- The arguments after a double hyphen, which are all inputs. -/
def inputs (d : Draft) : List String → Except Refusal Draft
  | [] => .ok d
  | arg :: rest =>
    match d.setInput? arg with
    | some d' => inputs d' rest
    | none => .error .usage

def arguments (d : Draft) : List String → Except Refusal Draft
  | [] => .ok d
  | arg :: rest =>
    if arg = "--" then inputs d rest
    else if asksForHelp arg then .error .help
    else if looksLikeOption arg then
      match Setting.ofName? arg, rest with
      | some setting, value :: more =>
        if looksLikeOption value then .error .usage
        else
          match d.set? value setting with
          | some d' => arguments d' more
          | none => .error .usage
      | some _, [] => .error .usage
      | none, rest =>
        match cutValue? arg with
        | none => .error .usage
        | some (name, value) =>
          match (Setting.ofName? name).bind (d.set? value) with
          | some d' => arguments d' rest
          | none => .error .usage
    else
      match d.setInput? arg with
      | some d' => arguments d' rest
      | none => .error .usage

def Draft.request? (d : Draft) : Option BuildRequest :=
  d.input.map fun input =>
    { input, outDir := d.outDir, target := d.target.getD .weixin, config := d.config }

/-- What arguments ask for, or nothing if they are wrong. -/
def parse? : List String → Option Command
  | [] => none
  | "build" :: args =>
    match arguments {} args with
    | .ok d => d.request?.map .build
    | .error .help => some .help
    | .error .usage => none
  | ["help"] => some .help
  | ["help", "build"] => some .help
  | ["help", "help"] => some .help
  | arg :: _ =>
    if asksForVersion arg then some .version
    else if asksForHelp arg then some .help
    else none

structure Outcome where
  exitCode : UInt32
  stdout : String := ""
  stderr : String := ""

def usage : String :=
  "Usage: mptpl build <INPUT> [--out-dir <OUT_DIR>] [--target <TARGET>] [--config <CONFIG>]\n"

def causeText : BuildError.Cause → String
  | .text message => message
  | .document => "malformed document"

/-- The causes of an error, numbered if there are several. -/
def causeLines : List String → List String
  | [] => []
  | [cause] => ["", "Caused by:", "    " ++ cause]
  | causes => "" :: "Caused by:" ::
    causes.zipIdx.map fun (cause, i) => "    " ++ toString i ++ ": " ++ cause

def errorReport (e : BuildError) : String :=
  String.join ((("Error: " ++ e.message) :: causeLines (e.causes.map causeText)).map (· ++ "\n"))

def run {m : Type → Type} [Monad m] [FileSystem m] (args : List String) : m Outcome :=
  match parse? args with
  | none => pure { exitCode := 2, stderr := usage }
  | some .help => pure { exitCode := 0, stdout := usage }
  | some .version => pure { exitCode := 0, stdout := "mptpl 0.1.1\n" }
  | some (.build r) => do
    let outcome ← Build.command r
    match outcome.result with
    | .ok _ => pure { exitCode := 0, stdout := outcome.stdout }
    | .error e => pure { exitCode := 1, stdout := outcome.stdout, stderr := errorReport e }

end CommandLine

end MiniTemplate
