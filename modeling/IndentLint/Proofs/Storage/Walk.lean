import IndentLint.Proofs.Storage.Names
import IndentLint.Storage.Disk

/-! Walking through a tree. What is reached by components, with steps back out of directories, is at
the place that the components name. -/
namespace IndentLint.Storage

def maxSize : Nat := 9223372036854775807

mutual

def Node.isProper : Node → Bool
  | .file bytes | .sealed bytes _ => bytes.length ≤ maxSize
  | .dir entries => entriesProper entries

def entriesProper : List (String × Node) → Bool
  | [] => true
  | (name, n) :: rest => isName name && n.isProper && entriesProper rest

end

theorem contentNode {n : Node} {c : Content} : n.content? = some c ↔ n = c.node := by
  obtain ⟨bytes, refusal⟩ := c
  cases n <;> cases refusal <;> simp [Node.content?, Content.node]

theorem nodeContent (c : Content) : c.node.content? = some c := contentNode.mpr rfl

theorem nodeFile (c : Content) : c.node.isFile = true := by rw [Node.isFile, nodeContent, Option.isSome_some]

theorem fileNode {n : Node} (isFile : n.isFile = true) : ∃ c : Content, n = c.node := by
  obtain ⟨c, held⟩ := Option.isSome_iff_exists.mp isFile
  exact ⟨c, contentNode.mp held⟩

theorem directoryNode {n : Node} (directory : n.isFile = false) : ∃ entries, n = .dir entries := by
  cases n with
  | dir entries => exact ⟨entries, rfl⟩
  | file | sealed => contradiction

theorem fileEntries {n : Node} (isFile : n.isFile = true) : n.entries = [] := by
  cases n with
  | dir entries => contradiction
  | file | sealed => rfl

theorem fileDirectories {n : Node} (isFile : n.isFile = true) : n.directories = [] := by
  cases n with
  | dir entries => contradiction
  | file | sealed => simp [Node.directories]

theorem nodeProper {c : Content} : c.node.isProper = true ↔ c.bytes.length ≤ maxSize := by
  obtain ⟨bytes, refusal⟩ := c
  cases refusal <;> simp [Content.node, Node.isProper]

def Disk.isProper (d : Disk) : Bool := d.top.isProper && d.current.all isName

theorem entriesProperMember {entries : List (String × Node)} (proper : entriesProper entries = true)
    {name : String} {n : Node} (member : (name, n) ∈ entries) : isName name = true ∧ n.isProper = true := by
  induction entries with
  | nil => contradiction
  | cons first rest ih =>
    obtain ⟨other, m⟩ := first
    simp only [entriesProper, Bool.and_eq_true] at proper
    rcases List.mem_cons.mp member with same | behind
    · obtain ⟨rfl, rfl⟩ := Prod.mk.inj same
      exact proper.1
    · exact ih proper.2 behind

theorem entryProper {n child : Node} (proper : n.isProper = true) {name : String}
    (member : (name, child) ∈ n.entries) : isName name = true ∧ child.isProper = true := by
  cases n with
  | file | sealed => contradiction
  | dir entries => exact entriesProperMember proper member

theorem lookupMember {entries : List (String × Node)} {name : String} {n : Node}
    (found : entries.lookup name = some n) : (name, n) ∈ entries := by
  obtain ⟨before, after, rfl, -⟩ := List.lookup_eq_some_iff.mp found
  simp

theorem childOfDirectory {n child : Node} {name : String} (found : n.child? name = some child) :
    n.isFile = false := by
  cases n with
  | file | sealed => contradiction
  | dir entries => rfl

structure Leading (name : String) : Prop where
  said : isSaid name = true
  inward : name ≠ ".."
  short : name.utf8ByteSize ≤ Disk.maxName

inductive Reached (top : Node) : Place → List Node → Node → Prop where
  | top : Reached top [] [] top
  | down {place above here name n} (before : Reached top place above here) (leading : Leading name)
      (entry : here.child? name = some n) : Reached top (place ++ [name]) (here :: above) n

/- One component on the way: it says nothing, leads back out, or leads into a directory. -/
inductive Moves : List Node → Node → String → List Node → Node → Prop where
  | stay {above here part} (directory : here.isFile = false) (silent : isSaid part = false) :
      Moves above here part above here
  | bottom {here} (directory : here.isFile = false) : Moves [] here ".." [] here
  | back {parent above here} (directory : here.isFile = false) :
      Moves (parent :: above) here ".." above parent
  | down {above here name n} (leading : Leading name) (entry : here.child? name = some n) :
      Moves above here name (here :: above) n

theorem movesDirectory {above above' : List Node} {here here' : Node} {part : String}
    (moves : Moves above here part above' here') : here.isFile = false := by
  cases moves with
  | stay directory | bottom directory | back directory => exact directory
  | down leading entry => exact childOfDirectory entry

theorem silentPart {part : String} (silent : isSaid part = false) : part = "" ∨ part = "." := by
  simpa [isSaid, or_iff_not_imp_left] using silent

theorem saidPart {part : String} (said : isSaid part = true) : part ≠ "" ∧ part ≠ "." := by
  simpa [isSaid] using said

theorem walkCons {above : List Node} {here n : Node} {part : String} {rest : List String} :
    Disk.walk above here (part :: rest) = .ok n ↔
      ∃ above' here', Moves above here part above' here' ∧ Disk.walk above' here' rest = .ok n := by
  constructor
  · intro walked
    -- The tests of a walk come in this order: a file, nothing said, a step back, a long name, no entry.
    rw [Disk.walk.eq_def] at walked
    simp only at walked
    split at walked
    · contradiction
    rename_i directory
    have directory : here.isFile = false := by simpa using directory
    split at walked
    · rename_i silent
      have silent : isSaid part = false := by simpa [isSaid, or_iff_not_imp_left] using silent
      exact ⟨above, here, .stay directory silent, walked⟩
    rename_i speaks
    have speaks : isSaid part = true := by simpa [isSaid] using speaks
    split at walked
    · rename_i outward
      subst outward
      split at walked
      · exact ⟨[], here, .bottom directory, walked⟩
      · rename_i parent more
        exact ⟨more, parent, .back directory, walked⟩
    rename_i inward
    split at walked
    · contradiction
    rename_i short
    split at walked
    · contradiction
    · rename_i n entry
      exact ⟨here :: above, n, .down ⟨speaks, inward, Nat.not_lt.mp short⟩ entry, walked⟩
  · rintro ⟨above', here', moves, walked⟩
    rw [Disk.walk.eq_def]
    cases moves with
    | stay directory silent => simp [directory, silentPart silent, walked]
    | bottom directory => simp [directory, walked]
    | back directory => simp [directory, walked]
    | down leading entry =>
      have short := Nat.not_lt.mpr leading.short
      simp [childOfDirectory entry, saidPart leading.said, leading.inward, short, entry, walked]

section
variable {top : Node}

theorem movesReached {place : Place} {above above' : List Node} {here here' : Node} {part : String}
    (reached : Reached top place above here) (moves : Moves above here part above' here') :
    Reached top (Place.follow place (said [part])) above' here' := by
  cases moves with
  | stay directory silent =>
    rw [followSilent place silent]
    exact reached
  | bottom directory =>
    cases reached with
    | top => exact .top
  | back directory =>
    cases reached with
    | down before leading entry =>
      rw [followBack, List.dropLast_concat]
      exact before
  | down leading entry =>
    rw [followDown place leading.said leading.inward]
    exact reached.down leading entry

theorem walkReached {place : Place} {above : List Node} {here n : Node} {parts : List String}
    (reached : Reached top place above here) (walked : Disk.walk above here parts = .ok n) :
    ∃ above, Reached top (Place.follow place (said parts)) above n := by
  induction parts generalizing place above here with
  | nil =>
    obtain rfl := Except.ok.inj walked
    exact ⟨above, reached⟩
  | cons part rest ih =>
    obtain ⟨above', here', moves, later⟩ := walkCons.mp walked
    rw [followCons]
    exact ih (movesReached reached moves) later

theorem reachedWalk {place : Place} {above : List Node} {here : Node}
    (reached : Reached top place above here) {rest : List String} {n : Node}
    (walked : Disk.walk above here rest = .ok n) : Disk.walk [] top (place ++ rest) = .ok n := by
  induction reached generalizing rest with
  | top => exact walked
  | @down place above here name n before leading entry ih =>
    rw [List.append_assoc]
    exact ih (walkCons.mpr ⟨_, _, .down leading entry, walked⟩)

theorem reachedProper (proper : top.isProper = true) {place : Place} {above : List Node} {n : Node}
    (reached : Reached top place above n) : place.all isName = true ∧ n.isProper = true := by
  induction reached with
  | top => exact ⟨rfl, proper⟩
  | down before leading entry ih =>
    obtain ⟨named, child⟩ := entryProper ih.2 (lookupMember entry)
    simp [ih.1, named, child]

theorem reachedParent {place : Place} {above : List Node} {n : Node} (reached : Reached top place above n) :
    ∃ above parent, Reached top place.dropLast above parent := by
  cases reached with
  | top => exact ⟨[], top, .top⟩
  | @down place above here name n before leading entry =>
    rw [List.dropLast_concat]
    exact ⟨above, here, before⟩

end

namespace Disk

theorem findSome {d : Disk} {path : String} {n : Node} :
    d.find path = .ok (some n) ↔
      path ≠ "" ∧ path.utf8ByteSize ≤ maxPath ∧ walk [] d.top (d.components path) = .ok n := by
  have looked : d.find path = .ok (some n) ↔ d.lookup path = .ok n := by
    unfold find
    split <;> simp_all
  rw [looked, lookup]
  by_cases empty : path = ""
  · simp [empty]
  · by_cases long : maxPath < path.utf8ByteSize
    · simp [empty, long, Nat.not_le.mpr long]
    · simp [empty, long, Nat.not_lt.mp long]

theorem findDirectory {d : Disk} {path : String} {n : Node} (found : d.find path = .ok (some n)) :
    d.top.isFile = false := by
  obtain ⟨-, -, walked⟩ := findSome.mp found
  have split : pieces path ≠ [] := by simp [pieces, Text.splitOnAgrees]
  have nonempty : d.components path ≠ [] := by
    unfold components
    split <;> simp [split]
  obtain ⟨part, rest, shape⟩ := List.exists_cons_of_ne_nil nonempty
  rw [shape] at walked
  obtain ⟨_, _, moves, -⟩ := walkCons.mp walked
  exact movesDirectory moves

theorem resolveNames {d : Disk} (current : d.current.all isName = true) (path : String) :
    (d.resolve (.ofString path)).all isName = true := by
  unfold resolve
  split
  · exact followNames rfl (ofStringSteps path)
  · exact followNames current (ofStringSteps path)

theorem componentsToString (d : Disk) (path : List String) :
    d.components (Place.toString path) = pieces (Place.toString path) := by
  simp [components, Place.toString]

theorem atSome {d : Disk} {path : List String} {n : Node} :
    d.at? path = some n ↔ walk [] d.top path = .ok n := by
  unfold at?
  split <;> simp_all

structure Keeps (d : Disk) (place : Place) (n : Node) : Prop where
  reached : ∃ above, Reached d.top place above n
  fits : (Place.toString place).utf8ByteSize ≤ maxPath

theorem reachedAt {d : Disk} {place : Place} {above : List Node} {n : Node}
    (reached : Reached d.top place above n) : walk [] d.top place = .ok n := by
  have walked := reachedWalk reached (show walk above n [] = .ok n from rfl)
  rwa [List.append_nil] at walked

theorem keepsAt {d : Disk} {place : Place} {n : Node} (keeps : d.Keeps place n) : d.at? place = some n := by
  obtain ⟨above, reached⟩ := keeps.reached
  exact atSome.mpr (reachedAt reached)

theorem keepsFind {d : Disk} (proper : d.top.isProper = true) (directory : d.top.isFile = false)
    {place : Place} {n : Node} (keeps : d.Keeps place n) :
    d.find (Place.toString place) = .ok (some n) := by
  obtain ⟨above, reached⟩ := keeps.reached
  have walked := reachedAt reached
  have nonempty : Place.toString place ≠ "" := by simp [Place.toString]
  refine findSome.mpr ⟨nonempty, keeps.fits, ?_⟩
  have silent (n : Node) (rest : List String) (walked : walk [] d.top rest = .ok n) :
      walk [] d.top ("" :: rest) = .ok n := walkCons.mpr ⟨[], d.top, .stay directory rfl, walked⟩
  rw [componentsToString]
  by_cases root : place = []
  · subst root
    exact silent n [""] (silent n [] walked)
  · rw [piecesToString (namesSteps (reachedProper proper reached).1) root]
    exact silent n place walked

theorem findKeeps {d : Disk} {path : List String} (steps : path.all isStep = true) {n : Node}
    (found : d.find (Place.toString path) = .ok (some n)) : d.Keeps (Place.follow [] path) n := by
  obtain ⟨-, fits, walked⟩ := findSome.mp found
  rw [componentsToString] at walked
  obtain ⟨above, reached⟩ := walkReached .top walked
  rw [saidToString steps] at reached
  have shorter := followWeight [] path
  rw [toStringSize] at fits
  refine ⟨⟨above, reached⟩, ?_⟩
  rw [toStringSize]
  have nothing : weight [] = 0 := rfl
  omega

end Disk
end IndentLint.Storage
