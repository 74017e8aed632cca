import DocumentGate.Http.Wire
import DocumentGate.Settings.File

/-!
# The program

The program reads its settings from the file in the home directory and answers requests
that come in over standard input, one connection at a time, until the input ends.
Whoever starts it listens on the address that it names.  Time passes between requests.
-/

namespace DocumentGate.Program

/-- The settings file, or what stands in its place. -/
def settingsSource : IO Settings.Source := do
  match ← IO.getEnv "HOME" with
  | some home =>
    try
      let content ← IO.FS.readBinFile (home ++ "/.config/docproxy/config.toml")
      return .bytes content.toList
    catch _ => return .missing
  | none => return .missing

/-- Tokens that nobody can guess. -/
def freshTokens : IO (Nat → String) := do
  let bytes ← IO.getRandomBytes 32
  let digits := bytes.toList.flatMap fun byte => Text.hexDigits 2 byte.toNat
  return fun number => String.ofList digits ++ "-" ++ toString number

/-- A world without servers of databases. -/
def worldOf (settings : Settings) : Service.World :=
  .ofSettings settings { connecting := some "no database server can be reached" } Clusters.initial

/-- The lines up to an empty one. -/
partial def readHead (input : IO.FS.Stream) : IO (List String) := do
  let line ← input.getLine
  if Text.isBlankText line then return []
  return line :: (← readHead input)

/-- So many bytes of the input, or those that are left. -/
partial def readBody (input : IO.FS.Stream) (count : Nat) : IO ByteArray := do
  if count = 0 then return .empty
  let bytes ← input.read count.toUSize
  if bytes.isEmpty then return .empty
  return bytes ++ (← readBody input (count - bytes.size))

/-- Answer requests until the input ends; the last argument is the time in milliseconds. -/
partial def converse (input output : IO.FS.Stream) (application : Http.Application)
    (before : Nat) : IO Http.Application := do
  match Http.Head.ofLines? (← readHead input) with
  | none => return application
  | some head =>
    let bytes ← readBody input head.contentLength
    let now ← IO.monoMsNow
    let elapsed : Service.Time := mkRat (now - before) 1000
    let request := head.request bytes.toList
    let (response, served) := (application.advance elapsed).serve "request" request
    output.putStr (response.getD .internalError).written
    output.flush
    converse input output served now

/-- Answer requests as the settings say; the result is the exit status. -/
def run : IO UInt32 := do
  match Settings.load (← settingsSource) with
  | .error fault =>
    IO.eprintln fault.message
    return 1
  | .ok settings =>
    let launch := Http.Launch.ofSettings settings
    IO.eprintln (launch.title ++ " " ++ launch.version ++ " for " ++ launch.host ++ ":" ++
      toString launch.port)
    let application := Http.Application.started (worldOf settings) (← freshTokens)
    let final ← converse (← IO.getStdin) (← IO.getStdout) application (← IO.monoMsNow)
    let _ := final.stopped
    return 0

end DocumentGate.Program

/-- Run the program. -/
def main : IO UInt32 :=
  DocumentGate.Program.run
