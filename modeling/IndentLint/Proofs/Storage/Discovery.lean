import IndentLint.Proofs.Check.Sources

/-! What a discovery finds: the files that a wanted pattern leads to and nothing excludes, in the order of
their places. It depends on the members of the lists only, not on their order or on how often they come. -/
namespace IndentLint.Storage

open Glob (Describes)

def Yields (d : Disk) (root : Place) (pattern : String) (file : Place) : Prop :=
  ∃ parts, Glob.parsePath pattern = .ok parts ∧ Glob.Reaches d root parts file

theorem locateYields {d : Disk} {root : Place} {pattern : String} {files : List Place}
    (located : locate d root pattern = .ok files) (file : Place) :
    file ∈ files ↔ Yields d root pattern file := by
  simp only [locate, bindOk, mapErrorOk] at located
  obtain ⟨parts, read, led⟩ := located
  rw [Glob.filesReached led]
  constructor
  · intro reaches
    exact ⟨parts, read, reaches⟩
  · rintro ⟨also, readAlso, reaches⟩
    cases read.symm.trans readAlso
    exact reaches

structure Filter.Admits (f : Filter) (relative : List String) : Prop where
  dirs : ∀ dir ∈ relative.dropLast, dir ∉ f.excludedDirs
  name : ∀ pattern ∈ f.excludedNames, ¬ Describes (Glob.parse pattern) (relative.getLast?.getD "").toList

theorem keepsAdmits {f : Filter} {relative : List String} : f.keeps relative = true ↔ f.Admits relative := by
  have dirs : (!relative.dropLast.any f.excludedDirs.contains) = true ↔
      ∀ dir ∈ relative.dropLast, dir ∉ f.excludedDirs := by
    simp
  have name : (!isExcludedName f.excludedNames (relative.getLast?.getD "")) = true ↔
      ∀ pattern ∈ f.excludedNames,
        ¬ Describes (Glob.parse pattern) (relative.getLast?.getD "").toList := by
    simp only [isExcludedName, Bool.not_eq_true', List.any_eq_false, Glob.nameDescribed]
  rw [Filter.keeps, Bool.and_eq_true, dirs, name]
  exact ⟨fun both => ⟨both.1, both.2⟩, fun admits => ⟨admits.dirs, admits.name⟩⟩

theorem relativeOk {root file : Place} {rest : List String} :
    relative root file = .ok rest ↔ file = root ++ rest := by
  unfold relative Place.under?
  constructor
  · intro given
    split at given
    · rename_i path below
      cases given
      obtain ⟨front, behind⟩ := Option.ite_none_right_eq_some.mp below
      have split := List.take_append_drop root.length file
      rw [front, Option.some.inj behind] at split
      exact split.symm
    · contradiction
  · rintro rfl
    simp

theorem judgedOk {f : Filter} {root file : Place} {keep : Bool} :
    (do .ok (f.keeps (← (relative root file).mapError id))) = (.ok keep : Except DiscoveryFault Bool) ↔
      ∃ rest, file = root ++ rest ∧ f.keeps rest = keep := by
  simp only [bindOk, mapErrorOk, relativeOk, Except.ok.injEq]

structure Finds (d : Disk) (root : Place) (f : Filter) (file : Place) : Prop where
  wanted : ∃ pattern ∈ f.wanted, Yields d root pattern file
  admitted : ∃ rest, file = root ++ rest ∧ f.Admits rest

section
variable {d : Disk} {root : Place} {f : Filter}

theorem wantedYields {all : List (List Place)} (located : f.wanted.mapM (locate d root) = .ok all)
    (file : Place) : file ∈ all.flatten ↔ ∃ pattern ∈ f.wanted, Yields d root pattern file := by
  rw [mapMHolds located]
  refine exists_congr fun pattern => and_congr_right fun member => ?_
  obtain ⟨files, led⟩ := mapMReturns located member
  simp [led, locateYields led]

theorem discoverFinds {found : List Place} (discovered : discover d root f = .ok found) :
    Place.Ascending found ∧ ∀ file, file ∈ found ↔ Finds d root f file := by
  obtain ⟨all, located, filtered⟩ := bindOk.mp discovered
  obtain ⟨kept, members⟩ := filterMOk filtered
  refine ⟨(Place.sortAscending _).sublist kept, fun file => ?_⟩
  rw [members, Place.sortMember, wantedYields located, judgedOk]
  simp only [keepsAdmits]
  exact ⟨fun ⟨wanted, admitted⟩ => ⟨wanted, admitted⟩, fun finds => ⟨finds.wanted, finds.admitted⟩⟩

/- A discovery returns if every pattern can be followed to its end and leads to nothing outside. -/
theorem discoverReturns : (∃ found, discover d root f = .ok found) ↔
    ∀ pattern ∈ f.wanted, (∃ files, locate d root pattern = .ok files) ∧
      ∀ file, Yields d root pattern file → ∃ rest, file = root ++ rest := by
  have judged (file : Place) : (∃ keep, (do .ok (f.keeps (← (relative root file).mapError id))) =
      (.ok keep : Except DiscoveryFault Bool)) ↔ ∃ rest, file = root ++ rest := by
    simp only [judgedOk]
    exact ⟨fun ⟨_, rest, below, _⟩ => ⟨rest, below⟩, fun ⟨rest, below⟩ => ⟨_, rest, below, rfl⟩⟩
  rw [forall₂_and, ← mapMTotal]
  constructor
  · rintro ⟨found, discovered⟩
    obtain ⟨all, located, filtered⟩ := bindOk.mp discovered
    refine ⟨⟨all, located⟩, fun pattern member file yields => ?_⟩
    have inside : file ∈ Place.sort all.flatten :=
      Place.sortMember.mpr ((wantedYields located file).mpr ⟨pattern, member, yields⟩)
    exact (judged file).mp (filterMTotal.mp ⟨found, filtered⟩ file inside)
  · rintro ⟨⟨all, located⟩, below⟩
    have each : ∀ file ∈ Place.sort all.flatten, ∃ keep,
        (do .ok (f.keeps (← (relative root file).mapError id))) =
          (.ok keep : Except DiscoveryFault Bool) := by
      intro file inside
      obtain ⟨pattern, member, yields⟩ := (wantedYields located file).mp (Place.sortMember.mp inside)
      exact (judged file).mpr (below pattern member file yields)
    obtain ⟨found, filtered⟩ := filterMTotal.mpr each
    exact ⟨found, bindOk.mpr ⟨all, located, filtered⟩⟩

end

structure Filter.Alike (f f' : Filter) : Prop where
  wanted : ∀ pattern, pattern ∈ f'.wanted ↔ pattern ∈ f.wanted
  dirs : ∀ dir, dir ∈ f'.excludedDirs ↔ dir ∈ f.excludedDirs
  names : ∀ pattern, pattern ∈ f'.excludedNames ↔ pattern ∈ f.excludedNames

section
variable {f f' : Filter} (alike : f.Alike f')
include alike

theorem alikeBack : f'.Alike f :=
  ⟨fun pattern => (alike.wanted pattern).symm, fun dir => (alike.dirs dir).symm,
    fun pattern => (alike.names pattern).symm⟩

variable {d : Disk} {root : Place}

theorem findsAlike {file : Place} (finds : Finds d root f file) : Finds d root f' file := by
  obtain ⟨⟨pattern, member, yields⟩, rest, below, dirs, name⟩ := finds
  refine ⟨⟨pattern, (alike.wanted pattern).mpr member, yields⟩, rest, below, fun dir above => ?_,
    fun pattern excluded => name pattern ((alike.names pattern).mp excluded)⟩
  exact mt (alike.dirs dir).mp (dirs dir above)

theorem discoverAlike {found : List Place} (discovered : discover d root f = .ok found) :
    discover d root f' = .ok found := by
  have returns := discoverReturns.mp ⟨found, discovered⟩
  obtain ⟨found', discovered'⟩ := discoverReturns.mpr fun pattern member =>
    returns pattern ((alike.wanted pattern).mp member)
  obtain ⟨ascending, members⟩ := discoverFinds discovered
  obtain ⟨ascending', members'⟩ := discoverFinds discovered'
  have same : found' = found := Place.ascendingSame ascending' ascending fun file => by
    rw [members, members']
    exact ⟨findsAlike (alikeBack alike), findsAlike alike⟩
  rw [discovered', same]

end

theorem foundRegular {d : Disk} (proper : d.top.isProper = true) {root : Place}
    (named : root.all isName = true) {f : Filter} {file : Place} (finds : Finds d root f file) :
    ∃ dirs name, ∃ content : Content,
      file = root ++ dirs ++ [name] ∧ d.at? file = some content.node := by
  obtain ⟨⟨pattern, -, parts, read, reaches⟩, rest, rfl, -⟩ := finds
  have steps := namesSteps named
  obtain ⟨content, keeps⟩ := Glob.reachesKeep proper (Glob.parsePathProper read) steps reaches
  have there := Disk.keepsAt keeps
  obtain ⟨entries, directory⟩ := reaches.directory
  have root := Disk.keepsAt (Disk.findKeeps steps directory)
  rw [followInward [] named, List.nil_append] at root
  rcases List.eq_nil_or_concat' rest with rfl | ⟨dirs, name, rfl⟩
  · rw [List.append_nil, root] at there
    cases contentNode.mpr (Option.some.inj there)
  · exact ⟨dirs, name, content, (List.append_assoc ..).symm, there⟩

structure Canonical (d : Disk) (path : String) (f : Filter) (found : List Place) : Prop where
  ascending : Place.Ascending found
  once : found.Nodup
  members : ∀ file, file ∈ found ↔ Finds d (d.resolve (.ofString path)) f file
  alike : ∀ f' : Filter, f.Alike f' → discoverAt d path f' = .ok found
  regular : d.isProper = true → ∀ file ∈ found, ∃ dirs name, ∃ content : Content,
    file = d.resolve (.ofString path) ++ dirs ++ [name] ∧ d.at? file = some content.node
  /- A check finds them as well, if its settings ask for the same. -/
  checked : ∀ s : Settings, Check.Asks s f → Check.sources s d (d.resolve (.ofString path)) = .ok found

theorem discoveryCanonical {d : Disk} {path : String} {f : Filter} {found : List Place}
    (discovered : discoverAt d path f = .ok found) : Canonical d path f found := by
  obtain ⟨plain, searched⟩ := refuseOk.mp discovered
  obtain ⟨ascending, members⟩ := discoverFinds searched
  refine ⟨ascending, ascending.imp fun before => before.ne, members, fun f' alike => ?_,
    fun proper file member => ?_, fun s asks => ?_⟩
  · exact refuseOk.mpr ⟨plain, discoverAlike alike searched⟩
  · simp only [Disk.isProper, Bool.and_eq_true] at proper
    exact foundRegular proper.1 (Disk.resolveNames proper.2 path) ((members file).mp member)
  · rw [Check.sourcesDiscover asks, searched]
    rfl

def nestedTree : Disk :=
  { top := .dir [("p", .dir [("a-b", .dir [("y.c", .file [])]),
      ("a", .dir [("x.c", .file []), ("x.min.c", .file []), ("out", .dir [("z.c", .file [])])]),
      ("out", .file []), ("m.c", .file [])])]
    current := ["p"], home := [] }

def overlapping : Filter :=
  { wanted := ["**/*.c", "a/**/x.c", "out"], excludedDirs := ["out"], excludedNames := ["*.min.*"] }

theorem nestedTreeCanonical :
    Canonical nestedTree "." overlapping [["p", "a", "x.c"], ["p", "a-b", "y.c"], ["p", "m.c"], ["p", "out"]] :=
  discoveryCanonical rfl

end IndentLint.Storage
