import CallMeter.Cli.Run
import CallMeter.Files.Archive
import CallMeter.Http.Wire
import Std.Time.DateTime.Timestamp

/-!
# The program

The command line over real files, the environment and the clock. A service that was started
answers the request lines of its standard input until they end.

## Main definitions

* `localHost`: what a run finds on this machine
* `main`: the program
-/

open CallMeter

namespace CallMeter.Program

/-- What stands at a path of this machine. -/
def look (path : String) : IO FileEntry := do
  let file := (← IO.currentDir) / path
  if ← file.isDir then return .directory
  if ← file.pathExists then return .ofBytes (← IO.FS.readBinFile file)
  match file.parent with
  | some directory => return if ← directory.isDir then .vacant else .nowhere
  | none => return .nowhere

/-- The time of the clock. -/
def clock : IO Time.Instant := do
  let nanos := (← Std.Time.Timestamp.now).toNanosecondsSinceUnixEpoch.val
  return ⟨nanos / 1000000000, (nanos % 1000000000).toNat⟩

/-- The variables in the memory image of the environment: names and values, each pair ended by
a zero byte. -/
def variablesOf (image : List Char) : List (String × String) :=
  (Text.splitOn '\x00' image).filterMap fun entry =>
    match Text.cut '=' entry with
    | (name, some value) => some (String.ofList name, String.ofList value)
    | (_, none) => none

/-- **The host** of this machine. -/
def localHost : IO (Cli.Host IO) := do
  let image ← IO.FS.readBinFile "/proc/self/environ"
  return ⟨look, variablesOf (Text.Utf8.decodeLossy image.toList).toList, ← clock⟩

/-- A service answers request lines until they end. -/
partial def serve (host : Cli.Host IO) (service : Cli.Service) : IO Unit := do
  let line ← (← IO.getStdin).getLine
  if line.isEmpty then return ()
  let out ← IO.getStdout
  let next ← match Http.Request.ofLine? (Text.trim line).toList with
    | none => pure service
    | some request => do
      let card ← host.card service.prices
      match service.portal.respond card (← clock) true request with
      | none => pure service
      | some (response, portal) =>
        out.putStr response.toText
        out.flush
        pure { service with portal := portal }
  serve host next

end CallMeter.Program

open CallMeter.Program in
/-- **The program**: a run with its effects. -/
def main (args : List String) : IO UInt32 := do
  let host ← localHost
  let outcome ← Cli.run host args
  let out ← IO.getStdout
  out.putStr outcome.output
  out.flush
  if let some path := outcome.created then
    IO.FS.writeFile path (TableStore.empty TableStore.defaultPageSize).archive
  if let some service := outcome.service then
    serve host service
  return UInt32.ofNat outcome.status
