import BargeIn.Program
import BargeIn.Replay.Event

/-!
# The command line

Takes the settings from the files below the working directory and the variables of the
environment, plays the recording on the standard input in real time and prints one line for each
decision.
-/

set_option autoImplicit false

namespace BargeIn.Main

open Replay

/-- What is at a path. What is there and cannot be read as a file counts as a directory. -/
def contentAt (path : String) : IO (Option Files.Content) := do
  try
    return some (.bytes (← IO.FS.readBinFile path).toList)
  catch
    | .noFileOrDirectory .. => return none
    | _ => return some .directory

def snapshot (paths : List String) : IO Files.Disk := do
  let found ← paths.mapM fun path => return (path, ← contentAt path)
  return fun path => (found.lookup path).join

def readVariables : IO Settings.Variables := do
  let listing ← IO.FS.readBinFile "/proc/self/environ"
  return Program.parseVariables (Text.Utf8.decodeLossy listing.toList)

def elapsed (start : Nat) : IO Nat := do
  return (← IO.monoMsNow) - start

def sleepUntil (start ms : Nat) : IO Unit := do
  IO.sleep (min (ms - (← elapsed start)) 3600000).toUInt32

/-- Prints what came out, each report no earlier than its millisecond. -/
def print (start : Nat) (p : Player) : IO Player := do
  let output ← IO.getStdout
  for (ms, report) in p.reports do
    sleepUntil start ms
    output.putStrLn report.line
    output.flush
  return p.emptied

partial def await {α : Type} (start : Nat) (line : Task α) (p : Player) : IO Player := do
  let p ← print start (p.catchUp (← elapsed start))
  if ← IO.hasFinished line then return p
  IO.sleep 1
  await start line p

partial def play (start : Nat) (p : Player) : IO Unit := do
  let input ← IO.getStdin
  let line ← IO.asTask input.getLine
  let p ← await start line p
  let text ← IO.ofExcept line.get
  if text.isEmpty then
    let _ ← print start p.finish
  else
    let p ← print start (p.playLines (splitLines text))
    sleepUntil start p.now
    play start p

end BargeIn.Main

open BargeIn in
def main : IO UInt32 := do
  let vars ← Main.readVariables
  let paths := Program.layerPaths vars
  let files ← Main.snapshot paths
  let files ← Main.snapshot (paths ++ (Program.lexiconPath? files vars).toList)
  match Program.configure files vars with
  | .error failure =>
    IO.eprintln failure.text
    return 1
  | .ok policy =>
    Main.play (← IO.monoMsNow) (Replay.Player.start policy {})
    return 0
