import IndentLint.Proofs.Storage.Growth

/-! Searching a tree with one more file. A pattern leads to the same files as before, and at most to
the new one beside them. -/
namespace IndentLint.Storage

def Disk.grow (d : Disk) (file : Place) (content : Content) : Disk :=
  { d with top := Node.place content.node file d.top }

theorem entriesProperSet {name : String} {n : Node} (named : isName name = true) (node : n.isProper = true)
    {entries : List (String × Node)} (proper : entriesProper entries = true) :
    entriesProper (Node.setEntry name n entries) = true := by
  induction entries with
  | nil => simp [Node.setEntry, entriesProper, named, node]
  | cons first rest ih =>
    obtain ⟨key, child⟩ := first
    simp only [entriesProper, Bool.and_eq_true] at proper
    rw [Node.setEntry]
    split
    · simp [entriesProper, node, proper]
    · simp [entriesProper, proper, ih proper.2]

theorem placeProper {leaf : Node} (node : leaf.isProper = true) {place : Place}
    (named : place.all isName = true) {n : Node} (proper : n.isProper = true) :
    (Node.place leaf place n).isProper = true := by
  induction place generalizing n with
  | nil => exact node
  | cons name rest ih =>
    simp only [List.all_cons, Bool.and_eq_true] at named
    have entries : entriesProper n.entries = true := by
      cases n with
      | file | sealed => rfl
      | dir entries => exact proper
    have child : ((n.child? name).getD (.dir [])).isProper = true := by
      cases there : n.child? name with
      | none => rfl
      | some child => exact (entryProper proper (lookupMember there)).2
    exact entriesProperSet named.1 (ih named.2 child) entries

theorem movesNamed {above above' : List Node} {here here' : Node} {name : String}
    (named : isName name = true) (moves : Moves above here name above' here') :
    here.child? name = some here' := by
  cases moves with
  | stay directory silent => simp [stepSaid (isNameStep named)] at silent
  | bottom directory => contradiction
  | back directory => contradiction
  | down leading entry => exact entry

theorem vacantWalk {place : Place} (named : place.all isName = true) {above : List Node} {here n : Node}
    (vacant : here.isVacant place = true) : Disk.walk above here place ≠ .ok n := by
  induction place generalizing above here with
  | nil => contradiction
  | cons name rest ih =>
    intro walked
    obtain ⟨beyond, next, moves, later⟩ := walkCons.mp walked
    simp only [List.all_cons, Bool.and_eq_true] at named
    have entry := movesNamed named.1 moves
    cases rest with
    | nil => simp [Node.isVacant, entry] at vacant
    | cons more rest =>
      rw [Node.isVacant, entry] at vacant
      exact ih named.2 vacant later

theorem vacantUnkept {d : Disk} (proper : d.top.isProper = true) {file : Place}
    (vacant : d.top.isVacant file = true) {n : Node} : ¬ d.Keeps file n := by
  rintro ⟨⟨above, reached⟩, -⟩
  exact vacantWalk (reachedProper proper reached).1 vacant (Disk.reachedAt reached)

section
variable {d : Disk} {file : Place} {content : Content} (vacant : d.top.isVacant file = true)
include vacant

theorem findGrown {path : String} {n : Node} (found : d.find path = .ok (some n)) :
    ∃ n', (d.grow file content).find path = .ok (some n') ∧ n'.isFile = n.isFile ∧
      (n.isFile = true → n' = n) := by
  obtain ⟨given, fits, walked⟩ := Disk.findSome.mp found
  obtain ⟨n', arrived, grown⟩ := walkGrown (.top vacant) walked
  exact ⟨n', Disk.findSome.mpr ⟨given, fits, arrived⟩, grownFile grown, grownSame grown⟩

theorem findShrunk {path : List String} (steps : path.all isStep = true) {n' : Node}
    (found : (d.grow file content).find (Place.toString path) = .ok (some n')) :
    (∃ n, d.find (Place.toString path) = .ok (some n) ∧ n'.isFile = n.isFile) ∨
    (Place.follow [] path = file ∧ n' = content.node) := by
  obtain ⟨given, fits, walked⟩ := Disk.findSome.mp found
  rcases walkShrunk (.top vacant) walked with ⟨n, arrived, grown⟩ | new
  · exact .inl ⟨n, Disk.findSome.mpr ⟨given, fits, arrived⟩, grownFile grown⟩
  · have named : said ((d.grow file content).components (Place.toString path)) = path := by
      rw [Disk.componentsToString, saidToString steps]
    rw [named] at new
    exact .inr new

theorem atGrown {path : List String} (steps : path.all isStep = true) {n : Node}
    (there : d.at? path = some n) :
    ∃ n', (d.grow file content).at? path = some n' ∧ Grown file content (Place.follow [] path) n n' := by
  obtain ⟨n', arrived, grown⟩ := walkGrown (.top vacant) (Disk.atSome.mp there)
  rw [saidSteps steps] at grown
  exact ⟨n', Disk.atSome.mpr arrived, grown⟩

theorem atShrunk {path : List String} (steps : path.all isStep = true) {n' : Node}
    (there : (d.grow file content).at? path = some n') :
    (∃ n, d.at? path = some n ∧ Grown file content (Place.follow [] path) n n') ∨ n' = content.node := by
  rcases walkShrunk (.top vacant) (Disk.atSome.mp there) with ⟨n, arrived, grown⟩ | new
  · rw [saidSteps steps] at grown
    exact .inl ⟨n, Disk.atSome.mpr arrived, grown⟩
  · exact .inr new.2

end

namespace Glob

section
variable {d : Disk} {file : Place} {content : Content} (vacant : d.top.isVacant file = true)
  {last : Bool} {part : Part} {path next : List String} (steps : path.all isStep = true)
include vacant steps

theorem entersGrown (enters : Enters d last path part next) :
    Enters (d.grow file content) last path part next := by
  cases enters with
  | parent => exact .parent
  | exact found kind =>
    obtain ⟨n', found', same, -⟩ := findGrown vacant found
    exact .exact found' (by simpa [Node.isDir, same] using kind)
  | wild there member kind described =>
    obtain ⟨n', there', grown⟩ := atGrown vacant steps there
    obtain ⟨child', member', same⟩ := grownEntry grown member
    exact .wild there' member' (by simpa [Node.isDir, same] using kind) described
  | deep there member =>
    obtain ⟨n', there', grown⟩ := atGrown vacant steps there
    exact .deep there' (by rwa [grownDirectories grown])

theorem entersShrunk (proper : (d.grow file content).top.isProper = true) (pattern : part.isProper = true)
    (enters : Enters (d.grow file content) last path part next) :
    Enters d last path part next ∨ (last = true ∧ Place.follow [] next = file) := by
  have further := entersSteps proper pattern steps enters
  cases enters with
  | parent => exact .inl .parent
  | exact found kind =>
    rcases findShrunk vacant further found with ⟨n, found', same⟩ | ⟨arrived, rfl⟩
    · exact .inl (.exact found' (by simpa [Node.isDir, same] using kind))
    · exact .inr ⟨by simpa [Node.isDir, nodeFile] using kind, arrived⟩
  | @wild pattern n' name child' there member kind described =>
    rcases atShrunk vacant steps there with ⟨n, there', grown⟩ | rfl
    · rcases shrunkEntry grown member with ⟨child, member', same⟩ | ⟨arrived, rfl⟩
      · exact .inl (.wild there' member' (by simpa [Node.isDir, same] using kind) described)
      · have named := (entryProper (atProper proper there) member).1
        refine .inr ⟨by simpa [Node.isDir, nodeFile] using kind, ?_⟩
        rw [arrived, followConcat [] path (isNameInward named)]
    · rw [fileEntries (nodeFile content)] at member
      contradiction
  | deep there member =>
    rcases atShrunk vacant steps there with ⟨n, there', grown⟩ | rfl
    · exact .inl (.deep there' (by rwa [← grownDirectories grown]))
    · rw [fileDirectories (nodeFile content)] at member
      contradiction

end

section
variable {d : Disk} {file : Place} (content : Content) (vacant : d.top.isVacant file = true)
  {path : List String} (steps : path.all isStep = true)
include vacant steps

theorem isDirectoryGrown : IsDirectory (d.grow file content) path ↔ IsDirectory d path := by
  constructor
  · rintro ⟨entries, found⟩
    rcases findShrunk vacant steps found with ⟨n, found', same⟩ | ⟨-, wrong⟩
    · obtain ⟨before, rfl⟩ := directoryNode same.symm
      exact ⟨before, found'⟩
    · have isFile := nodeFile content
      rw [← wrong] at isFile
      contradiction
  · rintro ⟨entries, found⟩
    obtain ⟨n', found', same, -⟩ := findGrown vacant found
    obtain ⟨after, rfl⟩ := directoryNode same
    exact ⟨after, found'⟩

theorem isFileGrown (other : Place.follow [] path ≠ file) :
    IsFile (d.grow file content) path ↔ IsFile d path := by
  constructor
  · rintro ⟨held, found⟩
    rcases findShrunk vacant steps found with ⟨n, found', same⟩ | ⟨arrived, -⟩
    · obtain ⟨before, rfl⟩ := fileNode (same.symm.trans (nodeFile held))
      exact ⟨before, found'⟩
    · contradiction
  · rintro ⟨held, found⟩
    obtain ⟨n', found', -, same⟩ := findGrown vacant found
    obtain rfl := same (nodeFile held)
    exact ⟨held, found'⟩

end

section
variable {d : Disk} {file : Place} {content : Content} (proper : d.top.isProper = true)
  (proper' : (d.grow file content).top.isProper = true) (vacant : d.top.isVacant file = true)
include proper proper' vacant

theorem leadsGrown {parts : List Part} (pattern : parts.all Part.isProper = true) {path : List String}
    (steps : path.all isStep = true) {out : List String} (other : Place.follow [] out ≠ file) :
    Leads (d.grow file content) parts path out ↔ Leads d parts path out := by
  constructor
  · intro leads
    induction leads with
    | done => exact .done
    | here => exact .here
    | @next part rest path between out further enters later ih =>
      simp only [List.all_cons, Bool.and_eq_true] at pattern
      have onward := ih pattern.2 (entersSteps proper' pattern.1 steps enters) other
      rcases entersShrunk vacant steps proper' pattern.1 enters with old | ⟨last, arrived⟩
      · exact .next further old onward
      · -- The new file ends the pattern, so that it is what the path leads to.
        rw [List.isEmpty_iff.mp last] at later
        cases later
        contradiction
  · intro leads
    induction leads with
    | done => exact .done
    | here => exact .here
    | next further enters later ih =>
      simp only [List.all_cons, Bool.and_eq_true] at pattern
      exact .next further (entersGrown vacant steps enters)
        (ih pattern.2 (entersSteps proper pattern.1 steps enters) other)

theorem reachesGrown {parts : List Part} (pattern : parts.all Part.isProper = true) {root : Place}
    (steps : root.all isStep = true) {target : Place} (other : target ≠ file) :
    Reaches (d.grow file content) root parts target ↔ Reaches d root parts target := by
  have directory := isDirectoryGrown content vacant steps
  constructor
  · rintro ⟨there, path, leads, isFile, rfl⟩
    have further := leadsSteps proper' pattern steps leads
    exact ⟨directory.mp there, path, (leadsGrown proper proper' vacant pattern steps other).mp leads,
      (isFileGrown content vacant further other).mp isFile, rfl⟩
  · rintro ⟨there, path, leads, isFile, rfl⟩
    have further := leadsSteps proper pattern steps leads
    exact ⟨directory.mpr there, path, (leadsGrown proper proper' vacant pattern steps other).mpr leads,
      (isFileGrown content vacant further other).mpr isFile, rfl⟩

end
end Glob
end IndentLint.Storage
