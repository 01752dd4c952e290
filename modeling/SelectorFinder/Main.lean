import SelectorFinder.CommandLine.Run

/-!
# The Program

Opens the file that the arguments name, runs, and prints.
-/

open SelectorFinder.CommandLine SelectorFinder.Html

namespace SelectorFinder.Main

/-- What the system says of a failure, with its number. -/
def reasonOf : IO.Error → String
  | .noFileOrDirectory _ code details | .interrupted _ code details => reason code details
  | .alreadyExists _ code details | .invalidArgument _ code details
  | .permissionDenied _ code details | .resourceExhausted _ code details
  | .inappropriateType _ code details | .noSuchThing _ code details => reason code details
  | .otherError code details | .resourceBusy code details | .resourceVanished code details
  | .unsupportedOperation code details | .hardwareFault code details
  | .unsatisfiedConstraints code details | .illegalOperation code details
  | .protocolError code details | .timeExpired code details => reason code details
  | e => toString e
where
  /-- The words of the system and the number of the failure. -/
  reason (code : UInt32) (details : String) : String :=
    details.capitalize ++ " (os error " ++ toString code.toNat ++ ")"

/-- What an open file hands out. -/
def readSource (h : IO.FS.Handle) : IO Source := do
  match ← h.readBinToEnd.toBaseIO with
  | .ok bytes => return ⟨[bytes.toList], none⟩
  | .error e => return ⟨[], some (reasonOf e)⟩

/-- Opens a file and reads it. -/
def openFile (path : String) : IO Opened := do
  match ← (IO.FS.Handle.mk path .read).toBaseIO with
  | .ok h => return .source (← readSource h)
  | .error e => return .refused (reasonOf e)

end SelectorFinder.Main

open SelectorFinder.Main in
/-- Runs the program. -/
def main (arguments : List String) : IO UInt32 := do
  let opened ← (fileNeeded? arguments).mapM openFile
  let outcome := run (fun _ => opened.getD (.refused "")) arguments
  IO.print outcome.output
  IO.eprint outcome.errors
  return outcome.code.toUInt32
