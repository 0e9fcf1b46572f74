import IndentLint.Proofs.Except
import IndentLint.Proofs.Storage.Matching
import IndentLint.Proofs.Storage.Walk
import IndentLint.Storage.Discovery

/-! What patterns lead to, one component after the other. Every path that a pattern leads to is made of
steps, so that the files it leads to are files of the tree, at the places that are given. -/
namespace IndentLint.Storage

theorem atProper {d : Disk} (proper : d.top.isProper = true) {path : List String} {n : Node}
    (found : d.at? path = some n) : n.isProper = true := by
  obtain ⟨above, reached⟩ := walkReached .top (Disk.atSome.mp found)
  exact (reachedProper proper reached).2

mutual

theorem directoriesProper (n : Node) (proper : n.isProper = true) {place : Place}
    (member : place ∈ n.directories) : place.all isName = true := by
  match n with
  | .file bytes | .sealed bytes refusal => simp [Node.directories] at member
  | .dir entries =>
    rcases List.mem_cons.mp member with rfl | below
    · rfl
    · exact directoriesInProper entries proper below

theorem directoriesInProper (entries : List (String × Node)) (proper : entriesProper entries = true)
    {place : Place} (member : place ∈ Node.directoriesIn entries) : place.all isName = true := by
  match entries with
  | [] => simp [Node.directoriesIn] at member
  | (name, n) :: rest =>
    simp only [entriesProper, Bool.and_eq_true] at proper
    simp only [Node.directoriesIn, List.mem_append, List.mem_map] at member
    rcases member with ⟨more, inside, rfl⟩ | behind
    · simp [proper.1.1, directoriesProper n proper.1.2 inside]
    · exact directoriesInProper rest proper.2 behind

end

namespace Glob

def Part.isProper : Part → Bool
  | .exact name => isName name
  | _ => true

theorem partOfProper {component : String} {part : Part} (step : isStep component = true)
    (read : partOf component = .ok part) : part.isProper = true := by
  unfold partOf at read
  simp only at read
  split at read
  · cases read
    rfl
  split at read
  · cases read
    rfl
  rename_i inward
  split at read
  · contradiction
  split at read
  · cases read
    rfl
  · cases read
    simpa [Part.isProper, isStep, inward] using step

theorem parsePathProper {pattern : String} {parts : List Part} (read : parsePath pattern = .ok parts) :
    parts.all Part.isProper = true := by
  unfold parsePath at read
  simp only at read
  split at read
  · contradiction
  split at read
  · contradiction
  obtain ⟨all, mapped, rest⟩ := bindOk.mp read
  have each : all.all Part.isProper = true := by
    refine List.all_eq_true.mpr fun part member => ?_
    obtain ⟨component, inside, given⟩ := mapMComes mapped member
    exact partOfProper (List.all_eq_true.mp (ofStringSteps pattern) component inside) given
  split at rest
  · contradiction
  · obtain rfl := Except.ok.inj rest
    split
    · simp [each, Part.isProper]
    · exact each

theorem memberAt {α : Type} {d : Disk} {path : List String} {of : Node → List α} {x : α}
    (member : x ∈ ((d.at? path).map of).getD []) : ∃ n, d.at? path = some n ∧ x ∈ of n := by
  cases there : d.at? path with
  | none => simp [there] at member
  | some n => exact ⟨n, rfl, by simpa [there] using member⟩

inductive Enters (d : Disk) (last : Bool) (path : List String) : Part → List String → Prop where
  | parent : Enters d last path .parent (path ++ [".."])
  | exact {name n} (found : d.find (Place.toString (path ++ [name])) = .ok (some n))
      (kind : (last || n.isDir) = true) : Enters d last path (.exact name) (path ++ [name])
  | wild {pattern n name child} (there : d.at? path = some n) (member : (name, child) ∈ n.entries)
      (kind : (last || child.isDir) = true) (described : Describes (parse pattern) name.toList) :
      Enters d last path (.wild pattern) (path ++ [name])
  | deep {n more} (there : d.at? path = some n) (member : more ∈ n.directories) :
      Enters d last path .deep (path ++ more)

def nexts (d : Disk) (last : Bool) (path : List String) : Part → Except AccessFault (List (List String))
  | .here => .ok []
  | .parent => .ok [path ++ [".."]]
  | .exact name => do
    match ← d.find (Place.toString (path ++ [name])) with
    | none => .ok []
    | some n => .ok (if last || n.isDir then [path ++ [name]] else [])
  | .wild pattern =>
    .ok ((((d.at? path).map Node.entries).getD []).filter (fun e =>
      (last || e.2.isDir) && nameMatches pattern e.1) |>.map fun e => path ++ [e.1])
  | .deep => .ok ((((d.at? path).map Node.directories).getD []).map (path ++ ·))

theorem nextsEnter {d : Disk} {last : Bool} {path : List String} {part : Part} {steps : List (List String)}
    (entered : nexts d last path part = .ok steps) (next : List String) :
    next ∈ steps ↔ Enters d last path part next := by
  cases part with
  | here =>
    cases entered
    simp only [List.not_mem_nil, false_iff]
    rintro ⟨⟩
  | parent =>
    cases entered
    rw [List.mem_singleton]
    constructor
    · rintro rfl
      exact .parent
    · rintro ⟨⟩
      rfl
  | exact name =>
    obtain ⟨node, asked, chosen⟩ := bindOk.mp entered
    constructor
    · intro member
      cases node with
      | none =>
        cases chosen
        contradiction
      | some n =>
        cases chosen
        obtain ⟨kind, here⟩ := List.mem_ite_nil_right.mp member
        obtain rfl := List.mem_singleton.mp here
        exact .exact asked kind
    · rintro (_ | ⟨there, kind⟩)
      obtain rfl := Except.ok.inj (asked.symm.trans there)
      cases chosen
      exact List.mem_ite_nil_right.mpr ⟨kind, List.mem_singleton_self _⟩
  | wild pattern =>
    cases entered
    simp only [List.mem_map, List.mem_filter, Bool.and_eq_true, nameDescribed]
    constructor
    · rintro ⟨⟨name, child⟩, ⟨member, kind, described⟩, rfl⟩
      obtain ⟨n, there, inside⟩ := memberAt member
      exact .wild there inside kind described
    · rintro ⟨⟩
      rename_i n name child there member kind described
      exact ⟨(name, child), ⟨by simpa [there] using member, kind, described⟩, rfl⟩
  | deep =>
    cases entered
    rw [List.mem_map]
    constructor
    · rintro ⟨more, member, rfl⟩
      obtain ⟨n, there, inside⟩ := memberAt member
      exact .deep there inside
    · rintro ⟨⟩
      rename_i n more there member
      exact ⟨more, by simpa [there] using member, rfl⟩

section
variable {d : Disk} {part : Part} {rest : List Part} (further : part ≠ .here)
include further

theorem selectNexts (path : List String) : select d (part :: rest) path = (do
    .ok (← (← nexts d rest.isEmpty path part).mapM (select d rest)).flatten) := by
  have single (next : List String) :
      select d rest next = (do .ok (← [next].mapM (select d rest)).flatten) := by
    rw [List.mapM_cons]
    cases select d rest next with
    | error fault => rfl
    | ok found => simp [bind, Except.bind, pure, Except.pure]
  have spread {α : Type} (xs : List α) (of : α → List String) :
      (do .ok (← xs.mapM fun x => select d rest (of x)).flatten) =
        (do .ok (← (xs.map of).mapM (select d rest)).flatten : Except AccessFault (List (List String))) := by
    rw [List.mapM_map]
    rfl
  cases part with
  | here => contradiction
  | parent => exact single _
  | exact name =>
    rw [select, nexts]
    cases d.find (Place.toString (path ++ [name])) with
    | error fault => rfl
    | ok node =>
      cases node with
      | none => rfl
      | some n =>
        show (if (rest.isEmpty || n.isDir) = true then select d rest (path ++ [name]) else .ok []) = (do
          .ok (← (if (rest.isEmpty || n.isDir) = true then [path ++ [name]] else []).mapM
            (select d rest)).flatten)
        split
        · exact single _
        · rfl
  | wild pattern => exact spread _ _
  | deep => exact spread _ _

theorem selectCons {path : List String} {found : List (List String)}
    (selected : select d (part :: rest) path = .ok found) :
    (∀ next, Enters d rest.isEmpty path part next → ∃ more, select d rest next = .ok more) ∧
    ∀ out, out ∈ found ↔
      ∃ next more, Enters d rest.isEmpty path part next ∧ select d rest next = .ok more ∧ out ∈ more := by
  rw [selectNexts further] at selected
  obtain ⟨steps, entered, later⟩ := bindOk.mp selected
  obtain ⟨all, mapped, joined⟩ := bindOk.mp later
  obtain rfl := Except.ok.inj joined
  constructor
  · intro next enters
    exact mapMReturns mapped ((nextsEnter entered next).mpr enters)
  · intro out
    rw [mapMHolds mapped]
    simp only [nextsEnter entered, exists_and_left]

end

theorem entersSteps {d : Disk} (proper : d.top.isProper = true) {last : Bool} {part : Part}
    (pattern : part.isProper = true) {path next : List String} (steps : path.all isStep = true)
    (enters : Enters d last path part next) : next.all isStep = true := by
  have extended {name : String} (ordinary : isName name = true) : (path ++ [name]).all isStep = true := by
    simp [steps, isNameStep ordinary]
  cases enters with
  | parent => simp [steps, show isStep ".." = true from rfl]
  | exact found kind => exact extended pattern
  | wild there member kind described => exact extended (entryProper (atProper proper there) member).1
  | deep there member =>
    rw [List.all_append, steps, Bool.true_and]
    exact namesSteps (directoriesProper _ (atProper proper there) member)

inductive Leads (d : Disk) : List Part → List String → List String → Prop where
  | done {path} : Leads d [] path path
  | here {rest path} : Leads d (.here :: rest) path path
  | next {part rest path between out} (further : part ≠ .here)
      (enters : Enters d rest.isEmpty path part between) (later : Leads d rest between out) :
      Leads d (part :: rest) path out

theorem leadsCons {d : Disk} {part : Part} {rest : List Part} {path out : List String}
    (further : part ≠ .here) :
    Leads d (part :: rest) path out ↔
      ∃ between, Enters d rest.isEmpty path part between ∧ Leads d rest between out := by
  constructor
  · intro leads
    cases leads with
    | here => contradiction
    | next further enters later => exact ⟨_, enters, later⟩
  · rintro ⟨between, enters, later⟩
    exact .next further enters later

theorem selectLeads {d : Disk} {parts : List Part} {path : List String} {found : List (List String)}
    (selected : select d parts path = .ok found) (out : List String) :
    out ∈ found ↔ Leads d parts path out := by
  induction parts generalizing path found with
  | nil =>
    cases selected
    rw [List.mem_singleton]
    constructor
    · rintro rfl
      exact .done
    · rintro ⟨⟩
      rfl
  | cons part rest ih =>
    by_cases final : part = .here
    · subst final
      cases selected
      rw [List.mem_singleton]
      constructor
      · rintro rfl
        exact .here
      · intro leads
        cases leads with
        | here => rfl
        | next further enters later => contradiction
    · obtain ⟨returns, members⟩ := selectCons final selected
      rw [members, leadsCons final]
      constructor
      · rintro ⟨next, more, enters, later, inside⟩
        exact ⟨next, enters, (ih later).mp inside⟩
      · rintro ⟨next, enters, leads⟩
        obtain ⟨more, later⟩ := returns next enters
        exact ⟨next, more, enters, later, (ih later).mpr leads⟩

theorem leadsSteps {d : Disk} (proper : d.top.isProper = true) {parts : List Part}
    (pattern : parts.all Part.isProper = true) {path out : List String} (steps : path.all isStep = true)
    (leads : Leads d parts path out) : out.all isStep = true := by
  induction leads with
  | done | here => exact steps
  | next further enters later ih =>
    simp only [List.all_cons, Bool.and_eq_true] at pattern
    exact ih pattern.2 (entersSteps proper pattern.1 steps enters)

def IsFile (d : Disk) (path : List String) : Prop :=
  ∃ content : Content, d.find (Place.toString path) = .ok (some content.node)

def IsDirectory (d : Disk) (path : List String) : Prop :=
  ∃ entries, d.find (Place.toString path) = .ok (some (.dir entries))

theorem isFileJudged {d : Disk} {path : List String} :
    (do return (← d.find (Place.toString path)).any Node.isFile) = Except.ok true ↔ IsFile d path := by
  simp only [IsFile, bindOk, pure, Except.pure, Except.ok.injEq]
  constructor
  · rintro ⟨node, asked, judged⟩
    match node with
    | none => contradiction
    | some n =>
      obtain ⟨content, rfl⟩ := fileNode judged
      exact ⟨content, asked⟩
  · rintro ⟨content, asked⟩
    exact ⟨_, asked, nodeFile content⟩

structure Reaches (d : Disk) (root : Place) (parts : List Part) (file : Place) : Prop where
  directory : IsDirectory d root
  led : ∃ path, Leads d parts root path ∧ IsFile d path ∧ Place.follow [] path = file

theorem filesReached {d : Disk} {root : Place} {parts : List Part} {found : List Place}
    (located : files d root parts = .ok found) (file : Place) : file ∈ found ↔ Reaches d root parts file := by
  unfold files at located
  obtain ⟨node, asked, later⟩ := bindOk.mp located
  split at later
  · rename_i entries
    obtain ⟨paths, selected, rest⟩ := bindOk.mp later
    obtain ⟨kept, filtered, joined⟩ := bindOk.mp rest
    obtain rfl := Except.ok.inj joined
    have members : file ∈ kept.map (Place.follow []) ↔
        ∃ path, Leads d parts root path ∧ IsFile d path ∧ Place.follow [] path = file := by
      rw [List.mem_map]
      refine exists_congr fun path => ?_
      rw [(filterMOk filtered).2, and_assoc, isFileJudged, selectLeads selected]
    rw [members]
    exact ⟨fun led => ⟨⟨entries, asked⟩, led⟩, fun reaches => reaches.led⟩
  · rename_i other
    obtain rfl := Except.ok.inj later
    constructor
    · intro member
      contradiction
    · rintro ⟨⟨entries, there⟩, -⟩
      rw [asked] at there
      exact absurd (Except.ok.inj there) (other entries)

theorem reachesKeep {d : Disk} (proper : d.top.isProper = true) {parts : List Part}
    (pattern : parts.all Part.isProper = true) {root file : Place} (steps : root.all isStep = true)
    (reaches : Reaches d root parts file) : ∃ content : Content, d.Keeps file content.node := by
  obtain ⟨-, path, leads, ⟨content, there⟩, rfl⟩ := reaches
  exact ⟨content, Disk.findKeeps (leadsSteps proper pattern steps leads) there⟩

end Glob
end IndentLint.Storage
