import IndentLint.CommandLine.Run
import Std.Time

/-! The command line. What a request names is read into a tree first, the run itself is pure, and
what it changed is written back. -/
namespace IndentLint.Main

open Storage (Disk Node Path Place)

/-- Why a file cannot be read. Only what keeps it from being opened has a path to blame. -/
def refusal : IO.Error → Storage.Refusal
  | .permissionDenied _ code details => { number := code.toNat, reason := details }
  | .hardwareFault code details => { number := code.toNat, reason := details, opens := true }
  | _ => { number := 5, reason := "Input/output error", opens := true }

partial def nodeAt? (entry : IO.FS.DirEntry) : IO (Option Node) := do
  if ← entry.path.isDir then
    let mut entries := []
    for child in ← entry.path.readDir do
      if let some n ← nodeAt? child then entries := (child.fileName, n) :: entries
    return some (.dir entries.reverse)
  else if ← entry.path.pathExists then
    try return some (.file (← IO.FS.readBinFile entry.path).toList)
    catch fault =>
      let size := (← entry.path.metadata).byteSize.toNat
      return some (.sealed (List.replicate size 0) (refusal fault))
  else return none

def capture (d : Disk) (path : String) : IO Disk := do
  let place := d.resolve (Path.ofString path)
  let mut top := d.top
  if ← IO.FS.DirEntry.path ⟨"/", Place.toString place.dropLast⟩ |>.isDir then
    if (d.at? place.dropLast).isNone then top := Node.place (.dir []) place.dropLast top
  if let some n ← nodeAt? ⟨"/", Place.toString place⟩ then top := Node.place n place top
  return { d with top }

def placeOf (path : String) : Place := Place.follow [] (Path.ofString path).parts

def environment : IO Variables := do
  let mut found := []
  for setting in Setting.withVariable do
    if let some name := setting.variableName? then
      if let some value ← IO.getEnv name then found := (name, value) :: found
  return found

def host (arguments : List String) : IO Host := do
  let current := placeOf (← IO.currentDir).toString
  let home := placeOf ((← IO.getEnv "HOME").getD "/")
  let bare : Disk := ⟨Node.place (.dir []) home (Node.place (.dir []) current (.dir [])), current, home⟩
  let named := match CommandLine.Request.read arguments with
    | .ok request => request.paths
    | .error _ => []
  let disk ← (Settings.searchPaths bare ++ named).foldlM capture bare
  let time ← Std.Time.PlainDateTime.now
  return { disk, environment := ← environment
           now := time.format "uuuu-MM-dd'T'HH:mm:ss", stamp := time.format "uuuu-MM-dd HH:mm:ss" }

def writeBack (before after : Disk) : IO Unit :=
  for (place, bytes) in Disk.changes before after [] do
    IO.FS.writeBinFile (Place.toString place) ⟨bytes.toArray⟩

end IndentLint.Main

open IndentLint in
def main (arguments : List String) : IO UInt32 := do
  let host ← Main.host arguments
  match CommandLine.run host arguments with
  | .error abort =>
    IO.eprintln abort.message
    return 1
  | .ok ending =>
    for chunk in ending.output do IO.print chunk.plain
    for line in ending.errors do IO.eprintln line
    Main.writeBack host.disk ending.disk
    return ending.code.toUInt32
