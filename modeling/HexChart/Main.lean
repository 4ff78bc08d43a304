import HexChart.Program

/-!
# The program on the files of the system

Everything here reads or writes outside the library; what is read is handed to
the library and what the library answers is written.
-/

namespace HexChart

def fileError : IO.Error → FileError
  | .noFileOrDirectory _ _ _ => .missing
  | .alreadyExists _ _ _ => .alreadyThere
  | .inappropriateType _ 20 _ => .notDirectory
  | .inappropriateType _ 21 _ => .isDirectory
  | .invalidArgument _ 36 _ => .nameTooLong
  | .permissionDenied _ code details =>
    .other (details ++ " (os error " ++ toString code ++ ")")
  | error => .other (toString error)

/-- What an action outside of the library gives, or why it fails. -/
def attempt {α : Type} (action : IO α) : IO (Except FileError α) := do
  try
    return .ok (← action)
  catch error =>
    return .error (fileError error)

/-- Access to the files of the system.  The empty path is the current directory, which
is there. -/
def systemAccess : Access IO where
  read path := attempt (IO.FS.readBinFile path)
  makeDirectories path := attempt (unless path = "" do IO.FS.createDirAll path)
  write path bytes := attempt (IO.FS.writeBinFile path bytes)

/-- Runs a job on the files of the system, of which the outcome holds nothing. -/
def Job.perform (job : Job) : IO Outcome := do
  let (result, events) ← job.runWith systemAccess
  return ⟨result, events, .empty⟩

/-- Runs the program on the files of the system. -/
def Program.perform (environment : Environment) (arguments : List String) : IO Report := do
  match CommandLine.parse environment arguments with
  | .ok (.run job) => return reportJob environment (← job.perform)
  | _ => return Program.run environment arguments .empty

end HexChart

def main (arguments : List String) : IO UInt32 := do
  let environment : HexChart.Environment :=
    ⟨← IO.getEnv "BOARDGEN_BOARDS_DIR", ← IO.getEnv "BOARDGEN_OUT_DIR",
      ← IO.getEnv "RUST_LOG"⟩
  let report ← HexChart.Program.perform environment arguments
  IO.print report.output
  for notice in report.notices do
    IO.eprintln notice.text
  return UInt32.ofNat report.exitCode
