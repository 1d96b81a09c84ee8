import GraphSchema.CommandLine.Run
import Std.Time.Format

/-! The program: it looks at the disk where a run may go, performs the run, and writes what the run
has changed. -/
namespace GraphSchema.Main
open CommandLine

/-- The variables of the environment; an entry without an equals sign is none. -/
def environment : IO Settings.Environment := do
  let bytes ←
    try
      let all ← IO.FS.readBinFile "/proc/self/environ"
      pure all.toList
    catch _ => pure []
  let entries := bytes.splitOn 0
  return entries.filterMap fun entry =>
    match entry.takeWhile (· ≠ 61), entry.dropWhile (· ≠ 61) with
    | name, _ :: value =>
      match Text.decode name, Text.decode value with
      | .ok name, .ok value => some (String.ofList name, String.ofList value)
      | _, _ => none
    | _, [] => none

def absolute (p : Place) : String := "/" ++ "/".intercalate p

/-- Adds what stands at a place. -/
def look (d : Disk) (p : Place) : IO Disk := do
  if (d.entry? p).isSome then return d
  try
    let bytes ← IO.FS.readBinFile (absolute p)
    return d.put p (.file bytes.toList)
  catch
    | .inappropriateType .. => return d.put p .directory
    | _ => return d

/-- Adds what stands along a path, up to the first part that is missing or a file. -/
def walk (d : Disk) (p : Place) : List String → IO Disk
  | [] => return d
  | part :: parts => do
    let next := Disk.move p part
    let d ← look d next
    if d.entry? next = some .directory then walk d next parts else return d

def survey (d : Disk) (path : Path) : IO Disk :=
  walk d (if path.anchor = "" then d.working else []) path.parts

/-- Writes an entry that a run has made or changed. -/
def write (before : Disk) (e : Place × Entry) : IO Unit := do
  if before.entry? e.1 ≠ some e.2 then
    match e.2 with
    | .directory => IO.FS.createDir (absolute e.1)
    | .file content => IO.FS.writeBinFile (absolute e.1) ⟨content.toArray⟩

/-- A duration in milliseconds with one digit behind the point. -/
def durationText (nanoseconds : Nat) : String :=
  let tenths := nanoseconds / 100000
  toString (tenths / 10) ++ "." ++ toString (tenths % 10) ++ "ms"

/-- A text of the system, as the program holds it. -/
def received (s : String) : String := String.ofList (s.toList.map fun c => Text.charOf c.toNat)

/-- A text with its halves escaped, as the stream for errors shows them. -/
def escaped (s : String) : String :=
  String.ofList <| s.toList.flatMap fun c =>
    if Text.isHalf c then Text.escapeCode (Text.codePoint c) else [c]

def start (arguments : List String) : IO UInt32 := do
  let arguments := arguments.map received
  let environment ← environment
  let working := (Path.ofString (toString (← IO.currentDir))).parts
  let d ← walk {} [] working
  let d ← survey { d with working } Settings.filePath
  let settings := (Settings.load [] environment d).outcome.toOption.getD {}
  let mut disk := d
  for path in (Request.ofArguments arguments).paths settings do
    disk ← survey disk path
  let now ← Std.Time.PlainDateTime.now
  let surroundings : Surroundings :=
    { environment, disk, stamp := now.format "uuuu-MM-dd HH:mm:ss" }
  let before ← IO.monoNanosNow
  discard <| IO.lazyPure fun _ => run surroundings arguments
  let elapsed := durationText ((← IO.monoNanosNow) - before)
  let outcome := run { surroundings with elapsed } arguments
  for e in outcome.disk.entries do
    write disk e
  IO.print outcome.out
  IO.eprint (escaped outcome.err)
  match outcome.exit with
  | .code n => return UInt32.ofNat n
  | .broken f =>
    IO.eprintln (escaped f.message)
    return 1

end GraphSchema.Main

def main (arguments : List String) : IO UInt32 := GraphSchema.Main.start arguments
