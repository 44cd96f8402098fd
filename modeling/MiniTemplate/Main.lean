import MiniTemplate.CommandLine

/-!
# The program

The command line on the files of the machine.
-/

namespace MiniTemplate

def errorNumber? : IO.Error → Option UInt32
  | .noFileOrDirectory _ n _ => some n
  | .noSuchThing _ n _ => some n
  | .alreadyExists _ n _ => some n
  | .inappropriateType _ n _ => some n
  | .invalidArgument _ n _ => some n
  | .permissionDenied _ n _ => some n
  | _ => none

/-- The size of a number that may have been given with a minus sign. -/
def withoutSign (n : UInt32) : UInt32 := if n < 0x80000000 then n else 0 - n

def FileFault.ofError (e : IO.Error) : FileFault :=
  match (errorNumber? e).map withoutSign with
  | some 2 => .notFound
  | some 17 => .alreadyExists
  | some 20 => .notADirectory
  | some 21 => .isADirectory
  | some 36 => .nameTooLong
  | _ => .other (toString e)

def attempt {α : Type} (action : IO α) : IO (Except FileFault α) := do
  try
    return .ok (← action)
  catch e =>
    return .error (.ofError e)

instance : FileSystem IO where
  readText p := do
    match ← attempt (IO.FS.readBinFile p.display) with
    | .error f => return .error f
    | .ok bytes =>
      match String.fromUTF8? bytes with
      | some text => return .ok text
      | none => return .error .notUtf8
  makeDir p := attempt (IO.FS.createDir p.display)
  isDir p := do
    match ← attempt (IO.FS.readBinFile p.display) with
    | .error .isADirectory => return true
    | _ => return false
  writeText p text := attempt (IO.FS.writeFile p.display text)

end MiniTemplate

def main (args : List String) : IO UInt32 := do
  let outcome ← MiniTemplate.CommandLine.run args
  (← IO.getStdout).putStr outcome.stdout
  (← IO.getStderr).putStr outcome.stderr
  return outcome.exitCode
