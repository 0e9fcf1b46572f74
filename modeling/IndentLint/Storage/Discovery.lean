import IndentLint.Storage.Glob

/-! Finding source files below a directory. -/
namespace IndentLint.Storage

def defaultWanted : List String :=
  ["**/*.java", "**/*.c", "**/*.h", "**/*.cc", "**/*.cpp", "**/*.hpp", "**/*.cs", "**/*.js",
    "**/*.ts", "**/*.go", "**/*.kt", "**/*.swift", "**/*.rs", "**/*.scala", "**/*.php"]

def defaultExcludedDirs : List String :=
  [".git", ".gradle", ".hg", ".idea", ".svn", ".vscode", "__pycache__", "bin", "build", "dist",
    "node_modules", "obj", "out", "target", "vendor"]

def defaultExcludedNames : List String := ["*.min.js", "*.class", "*.o", ".*"]

structure Filter where
  wanted : List String := defaultWanted
  excludedDirs : List String := defaultExcludedDirs
  excludedNames : List String := defaultExcludedNames
  deriving DecidableEq, Repr

inductive DiscoveryFault where
  | pattern (fault : Glob.Fault)
  | access (fault : AccessFault)
  | outside (file root : Place)
  deriving DecidableEq, Repr

def DiscoveryFault.message : DiscoveryFault → String
  | .pattern fault => fault.message
  | .access fault => fault.message
  | .outside file root =>
    Text.quoted file.toString ++ " is not in the subpath of " ++ Text.quoted root.toString
      ++ " OR one path is relative and the other is absolute."

def isExcludedName (patterns : List String) (name : String) : Bool :=
  patterns.any fun pattern => Glob.nameMatches pattern name

def Filter.keeps (f : Filter) (relative : List String) : Bool :=
  !(relative.dropLast.any f.excludedDirs.contains)
    && !isExcludedName f.excludedNames (relative.getLast?.getD "")

def locate (d : Disk) (root : Place) (pattern : String) : Except DiscoveryFault (List Place) := do
  let parts ← (Glob.parsePath pattern).mapError .pattern
  (Glob.files d root parts).mapError .access

def relative (root file : Place) : Except DiscoveryFault (List String) :=
  match Place.under? root file with
  | some path => .ok path
  | none => .error (.outside file root)

def arrange {α ε : Type} (ofFault : DiscoveryFault → ε) (leads : α → Except ε (List Place))
    (keeps : List String → Except ε Bool) (root : Place) (patterns : List α) :
    Except ε (List Place) := do
  let found ← patterns.mapM leads
  (Place.sort found.flatten).filterM fun file => do
    keeps (← (relative root file).mapError ofFault)

def discover (d : Disk) (root : Place) (f : Filter) : Except DiscoveryFault (List Place) :=
  arrange id (locate d root) (fun path => .ok (f.keeps path)) root f.wanted

def discoverAt (d : Disk) (path : String) (f : Filter) : Except DiscoveryFault (List Place) :=
  if holdsZero path then .error (.access ⟨.holdsZero, path⟩)
  else discover d (d.resolve (.ofString path)) f

end IndentLint.Storage
