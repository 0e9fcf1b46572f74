import IndentLint.Check.Sources
import IndentLint.Proofs.Storage.Added
import IndentLint.Proofs.Storage.Order

/-! The files that are found below a directory. What the settings ask for is found as by a discovery: files of
the tree, in ascending order, each once. One more file in the tree is one more file found, or makes no
difference. -/
namespace IndentLint.Check
open Document (Value)
open Storage

section
variable (texts : List String)

theorem isExcludedTexts (name : String) :
    isExcluded name (texts.map .text) = .ok (isExcludedName texts name) := by
  induction texts with
  | nil => rfl
  | cons pattern rest ih =>
    have first : isExcluded name ((pattern :: rest).map .text) =
        if Glob.nameMatches pattern name then .ok true else isExcluded name (rest.map .text) := rfl
    rw [first, ih]
    by_cases described : Glob.nameMatches pattern name = true <;> simp [isExcludedName, described]

theorem directoryNamesTexts : directoryNames (texts.map .text) = .ok texts := by
  have fixed : (texts.map Value.text).all isFixed = true :=
    List.all_eq_true.mpr fun _ member => by
      obtain ⟨text, -, rfl⟩ := List.mem_map.mp member
      rfl
  rw [directoryNames, if_pos fixed, List.filterMap_map]
  exact congrArg Except.ok List.filterMap_some

end

structure Asks (s : Settings) (f : Filter) : Prop where
  wanted : (s.get .includePatterns).mapError .unusable >>= membersOr defaultWanted = .ok (f.wanted.map .text)
  dirs : (s.get .excludeDirs).mapError .unusable >>= membersOr defaultExcludedDirs =
    .ok (f.excludedDirs.map .text)
  names : (s.get .excludeGlobs).mapError .unusable >>= membersOr defaultExcludedNames =
    .ok (f.excludedNames.map .text)

theorem arrangeTexts (d : Disk) (root : Place) (keeps : List String → Bool) (patterns : List String) :
    arrange Fault.ofDiscovery (locate d root) (fun path => .ok (keeps path)) root (patterns.map .text) =
      (arrange id (Storage.locate d root) (fun path => .ok (keeps path)) root patterns).mapError
        Fault.ofDiscovery := by
  have located : (patterns.map Value.text).mapM (locate d root) =
      (patterns.mapM (Storage.locate d root)).mapError Fault.ofDiscovery := by
    rw [mapMMapError, List.mapM_map]
    rfl
  have judged (file : Place) : (do .ok (keeps (← (relative root file).mapError Fault.ofDiscovery))) =
      (do .ok (keeps (← (relative root file).mapError id))).mapError Fault.ofDiscovery := by
    cases relative root file <;> rfl
  rw [arrange, located, arrange]
  cases patterns.mapM (Storage.locate d root) with
  | error fault => rfl
  | ok all =>
    have filtered := congrArg (List.filterM · (Place.sort all.flatten)) (funext judged)
    exact filtered.trans (filterMMapError _).symm

theorem sourcesDiscover {s : Settings} {f : Filter} (asks : Asks s f) (d : Disk) (root : Place) :
    sources s d root = (discover d root f).mapError Fault.ofDiscovery := by
  obtain ⟨wanted, gotWanted, wantedTexts⟩ := bindOk.mp asks.wanted
  obtain ⟨dirs, gotDirs, dirTexts⟩ := bindOk.mp asks.dirs
  obtain ⟨names, gotNames, nameTexts⟩ := bindOk.mp asks.names
  have kept (path : List String) : (do
      if path.dropLast.any f.excludedDirs.contains then return false
      return !(← isExcluded (path.getLast?.getD "") (← membersOr defaultExcludedNames names))) =
      (.ok (f.keeps path) : Except Fault Bool) := by
    simp only [nameTexts, isExcludedTexts, Filter.keeps, bind, Except.bind, pure, Except.pure]
    cases path.dropLast.any f.excludedDirs.contains <;> rfl
  simp only [sources, discover, gotWanted, gotDirs, gotNames, wantedTexts, dirTexts, directoryNamesTexts,
    bind, Except.bind]
  exact (congrArg (arrange _ _ · _ _) (funext kept)).trans (arrangeTexts ..)

theorem locateFiles {d : Disk} {root : Place} {v : Value} {places : List Place}
    (located : locate d root v = .ok places) :
    ∃ parts : List Glob.Part, parts.all Glob.Part.isProper = true ∧
      ∀ d places, locate d root v = .ok places ↔ Glob.files d root parts = .ok places := by
  unfold locate at located ⊢
  cases named : pattern? v with
  | none => simp [named] at located
  | some pattern =>
    simp only [named, mapErrorOk, Storage.locate, bindOk] at located ⊢
    obtain ⟨parts, read, -⟩ := located
    exact ⟨parts, Glob.parsePathProper read, fun d places => by simp [read]⟩

theorem sourcesSearch {s : Settings} {d : Disk} {root : Place} {found : List Place}
    (discovered : sources s d root = .ok found) :
    ∃ (wanted : List Value) (keep : Place → Except Fault Bool), ∀ d found,
      sources s d root = .ok found ↔ ∃ all, wanted.mapM (locate d root) = .ok all ∧
        (Place.sort all.flatten).filterM keep = .ok found := by
  simp only [sources, arrange, bindOk] at discovered ⊢
  obtain ⟨patterns, got, dirs, gotDirs, names, gotNames, members, held, excluded, read, wanted, listed, -⟩ :=
    discovered
  exact ⟨wanted, _, fun d found => by
    simp only [got, gotDirs, gotNames, held, read, listed, Except.ok.injEq, exists_eq_left']
    exact Iff.rfl⟩

theorem sourcesAscending {s : Settings} {d : Disk} {root : Place} {found : List Place}
    (discovered : sources s d root = .ok found) : Place.Ascending found := by
  obtain ⟨wanted, keep, search⟩ := sourcesSearch discovered
  obtain ⟨all, -, filtered⟩ := (search d found).mp discovered
  exact (Place.sortAscending _).sublist (filterMOk filtered).1

section
variable {s : Settings} {d : Disk} {root : Place} (proper : d.top.isProper = true)
  (steps : root.all isStep = true)
include proper steps

theorem sourcesKeep {found : List Place} (discovered : sources s d root = .ok found) :
    ∀ file ∈ found, ∃ content : Content, d.Keeps file content.node := by
  intro file member
  obtain ⟨wanted, keep, search⟩ := sourcesSearch discovered
  obtain ⟨all, mapped, filtered⟩ := (search d found).mp discovered
  have sorted := (((filterMOk filtered).2 file).mp member).1
  obtain ⟨v, -, places, located, inside⟩ := (mapMHolds mapped).mp (Place.sortMember.mp sorted)
  obtain ⟨parts, pattern, agree⟩ := locateFiles located
  have reaches := (Glob.filesReached ((agree d places).mp located) file).mp inside
  exact Glob.reachesKeep proper pattern steps reaches

theorem sourcesGrown {file : Place} {content : Content} (vacant : d.top.isVacant file = true)
    (proper' : (d.grow file content).top.isProper = true) {found found' : List Place}
    (discovered : sources s d root = .ok found)
    (discovered' : sources s (d.grow file content) root = .ok found') :
    found = found'.filter (· ≠ file) := by
  obtain ⟨wanted, keep, search⟩ := sourcesSearch discovered
  obtain ⟨all, mapped, filtered⟩ := (search d found).mp discovered
  obtain ⟨all', mapped', filtered'⟩ := (search _ found').mp discovered'
  have led {target : Place} (other : target ≠ file) : target ∈ all'.flatten ↔ target ∈ all.flatten := by
    rw [mapMHolds mapped, mapMHolds mapped']
    refine exists_congr fun v => and_congr_right fun member => ?_
    obtain ⟨places, located⟩ := mapMReturns mapped member
    obtain ⟨places', located'⟩ := mapMReturns mapped' member
    obtain ⟨parts, pattern, agree⟩ := locateFiles located
    have same : target ∈ places' ↔ target ∈ places := by
      rw [Glob.filesReached ((agree _ _).mp located), Glob.filesReached ((agree _ _).mp located')]
      exact Glob.reachesGrown proper proper' vacant pattern steps other
    simp [located, located', same]
  -- Both lists ascend, so it is enough that they have the same members.
  refine Place.ascendingSame (sourcesAscending discovered)
    ((sourcesAscending discovered').sublist List.filter_sublist) fun target => ?_
  have members := (filterMOk filtered).2 target
  have members' := (filterMOk filtered').2 target
  rw [Place.sortMember] at members members'
  rw [List.mem_filter, decide_eq_true_eq]
  constructor
  · intro member
    have other : target ≠ file := by
      rintro rfl
      obtain ⟨content, keeps⟩ := sourcesKeep proper steps discovered target member
      exact vacantUnkept proper vacant keeps
    obtain ⟨inside, kept⟩ := members.mp member
    exact ⟨members'.mpr ⟨(led other).mpr inside, kept⟩, other⟩
  · rintro ⟨member, other⟩
    obtain ⟨inside, kept⟩ := members'.mp member
    exact members.mpr ⟨(led other).mp inside, kept⟩

end
end IndentLint.Check
