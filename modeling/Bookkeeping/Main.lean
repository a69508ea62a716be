import Bookkeeping.CommandLine.Journal
import Bookkeeping.Settings
import Std.Time.DateTime.Timestamp

/-! The program: runs one command line against the books that the settings name. The books are kept
as a journal of what was ordered. -/

namespace Bookkeeping.Main

open CommandLine

def succeeded : UInt32 := 0

def failed : UInt32 := 1

def refused : UInt32 := 2

def now : IO Instant := do
  let t := (← Std.Time.Timestamp.now).val
  return (Instant.of? t.second.val t.nano.val.toNat).getD (Instant.ofSeconds t.second.val)

def freshId : IO Uuid := do
  let bytes ← IO.getRandomBytes 16
  return Uuid.random (bytes.toList.foldl (fun n b => 256 * n + b.toNat) 0)

def occasion : IO Occasion := do return ⟨← freshId, ← freshId, ← now, ← now⟩

def readIfPresent (path : String) : IO (Option String) := do
  try
    return some (← IO.FS.readFile path)
  catch _ => return none

def environment : IO (List (String × String)) := do
  Settings.variableNames.filterMapM fun name => return (← IO.getEnv name).map (name, ·)

def append (path line : String) : IO Unit := do
  let file ← IO.FS.Handle.mk path .append
  file.putStrLn line

def perform (journal : Option String) (store : Store) (words : List String) (order : Order) :
    IO UInt32 := do
  let o ← occasion
  match (order.run o store).1 with
  | .ok reply =>
    if let some path := journal then append path (Entry.text ⟨words, o⟩)
    IO.println (order.report reply).pretty
    return succeeded
  | .error (.error e) =>
    IO.eprintln e.message
    return if e.isDomain then refused else failed
  | .error (.overflow o) =>
    IO.eprintln o.message
    return failed

def run (settings : Settings) (words : List String) (order : Order) : IO UInt32 := do
  match settings.database with
  | .memory => perform none .fresh words order
  | .sqlite path =>
    match restore? ((← readIfPresent path).getD "") with
    | some store => perform (some path) store words order
    | none =>
      IO.eprintln s!"no journal: {path}"
      return failed

end Bookkeeping.Main

open Bookkeeping in
def main (words : List String) : IO UInt32 := do
  match CommandLine.read (← Main.now) words with
  | .error e =>
    if e.isHelp then
      IO.println e.message
      return Main.succeeded
    IO.eprintln e.message
    return Main.refused
  | .ok invocation =>
    let file ← Main.readIfPresent (invocation.config ++ ".toml")
    match Settings.read file (← Main.environment) with
    | .ok settings => Main.run settings words invocation.order
    | .error _ =>
      IO.eprintln "invalid settings"
      return Main.failed
