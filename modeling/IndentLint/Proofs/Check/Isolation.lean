import IndentLint.Proofs.Check.Sources
import IndentLint.Proofs.Check.Targets

/-! Checks of whole directories. Every file that is found is accounted for by what came of it alone,
in the order in which the files are found, however many workers there are and however they share the files. -/
namespace IndentLint.Check
open Document (Value Entries)
open Number (Quantity)
open Storage

def checkTarget (host : Host) (s : Settings) (file : Place) : Except Fault Outcome :=
  checkFile host s (Place.toString file) (contents host.disk file)

/-! ### Side by side -/

section
variable {α : Type}

theorem lookupEnded (task? : Nat → Option α) (order : List Nat) (i : Nat) :
    (order.filterMap fun j => (task? j).map (j, ·)).lookup i = if i ∈ order then task? i else none := by
  induction order with
  | nil => rfl
  | cons j rest ih =>
    by_cases same : i = j
    · subst same
      cases found : task? i with
      | none => simp [found, ih]
      | some t => simp [found]
    · cases found : task? j with
      | none => simp [found, ih, same]
      | some t => simp [found, List.lookup_cons, beq_eq_false_iff_ne.mpr same, ih, same]

theorem rangeMembers (tasks : List α) : (List.range tasks.length).filterMap (tasks[·]?) = tasks := by
  induction tasks using List.reverseRecOn with
  | nil => rfl
  | append_singleton rest t ih =>
    have before : (List.range rest.length).filterMap ((rest ++ [t])[·]?) = rest :=
      (List.filterMap_congr fun i member => List.getElem?_append_left (List.mem_range.mp member)).trans ih
    rw [List.length_append, List.length_singleton, List.range_succ, List.filterMap_append, before]
    simp

/- In whatever order tasks come to an end, they come to what they come to in turn. -/
theorem sideBySideInTurn (schedule : Schedule) (tasks : List (Except Fault α)) :
    sideBySide schedule tasks = tasks.mapM id := by
  have ended : (List.range tasks.length).filterMap (List.lookup · ((schedule.order tasks.length).filterMap
      fun i => tasks[i]?.map fun t => (i, t))) = (List.range tasks.length).filterMap (tasks[·]?) := by
    refine List.filterMap_congr fun i member => ?_
    rw [lookupEnded (tasks[·]?), if_pos ((schedule.complete _).mem_iff.mpr member)]
  rw [sideBySide, ended, rangeMembers]

end

theorem checkFilesMapM (host : Host) (s : Settings) (n : Quantity) (files : List (String × Content)) :
    checkFiles host s n files = files.mapM fun f => checkFile host s f.1 f.2 := by
  unfold checkFiles
  split
  · rfl
  · rw [sideBySideInTurn, List.mapM_map]
    rfl

/-! ### Directories -/

theorem contentsAt {d : Disk} {file : Place} {content : Content} (there : d.at? file = some content.node) :
    contents d file = content := by
  rw [contents, there, Option.bind_some, nodeContent, Option.getD_some]

structure Discovers (host : Host) (s : Settings) (path : String) (found : List Place) : Prop where
  proper : host.disk.isProper = true
  directory : ∃ entries, host.disk.find (Path.ofString path).toString = .ok (some (.dir entries))
  discovered : sources s host.disk (host.disk.resolve (.ofString path)) = .ok found

section
variable {host : Host} {s : Settings} {path : String} {found : List Place}
  (discovers : Discovers host s path found)
include discovers

theorem checkPathDirectory {about : Entries} (described : metadata host s (.ofString path) = .ok about)
    {n : Quantity} (counted : workers s = .ok n) :
    ∃ warnings log, checkPath host s path = (found.mapM (checkTarget host s)).map fun outcomes =>
      (gather about host.elapsed warnings outcomes, log ++ outcomes.flatMap Outcome.log) := by
  obtain ⟨entries, there⟩ := discovers.directory
  simp only [checkPath, there, targets, Node.content?, discovers.discovered, described, counted, checkFilesMapM,
    List.mapM_map, Except.mapError, bind, Except.bind]
  have each : ((fun f : String × Content => checkFile host s f.1 f.2) ∘ fun file =>
      (Place.toString file, contents host.disk file)) = checkTarget host s := rfl
  rw [each]
  cases found.mapM (checkTarget host s) with
  | error fault => exact ⟨[], [], rfl⟩
  | ok outcomes => exact ⟨_, _, rfl⟩

theorem discoversProper : host.disk.top.isProper = true := by
  have proper := discovers.proper
  simp only [Disk.isProper, Bool.and_eq_true] at proper
  exact proper.1

theorem discoversTop : host.disk.top.isFile = false := by
  obtain ⟨entries, there⟩ := discovers.directory
  exact Disk.findDirectory there

theorem discoversSteps : (host.disk.resolve (.ofString path)).all isStep = true := by
  have proper := discovers.proper
  simp only [Disk.isProper, Bool.and_eq_true] at proper
  exact namesSteps (Disk.resolveNames proper.2 path)

theorem discoversKeeps {file : Place} (member : file ∈ found) :
    host.disk.Keeps file (contents host.disk file).node := by
  obtain ⟨content, keeps⟩ :=
    sourcesKeep (discoversProper discovers) (discoversSteps discovers) discovers.discovered file member
  rwa [contentsAt (Disk.keepsAt keeps)]

end

theorem discoversGrown {host : Host} {s : Settings} {path : String} {found found' : List Place}
    (discovers : Discovers host s path found) {file : Place} {content : Content}
    (named : file.all isName = true) (vacant : host.disk.top.isVacant file = true)
    (sized : content.bytes.length ≤ maxSize)
    (discovered : sources s (host.disk.grow file content) (host.disk.resolve (.ofString path)) = .ok found') :
    Discovers { host with disk := host.disk.grow file content } s path found' := by
  obtain ⟨entries, there⟩ := discovers.directory
  obtain ⟨n', there', kind, -⟩ := findGrown vacant there
  refine ⟨?_, ?_, discovered⟩
  · have proper := discovers.proper
    simp only [Disk.isProper, Bool.and_eq_true] at proper ⊢
    exact ⟨placeProper (nodeProper.mpr sized) named proper.1, proper.2⟩
  · obtain ⟨after, rfl⟩ := directoryNode kind
    exact ⟨after, there'⟩

theorem contentsGrown {d : Disk} {file target : Place} {new content : Content}
    (vacant : d.top.isVacant file = true) (keeps : d.Keeps target content.node) :
    contents (d.grow file new) target = content := by
  obtain ⟨n', arrived, grown⟩ := walkGrown (.top vacant) (Disk.atSome.mp (Disk.keepsAt keeps))
  obtain rfl := grownSame grown (nodeFile content)
  exact contentsAt (Disk.atSome.mpr arrived)

theorem contentsAdded {d : Disk} {file : Place} {new content : Content}
    (vacant : d.top.isVacant file = true) (proper : (d.grow file new).top.isProper = true)
    (keeps : (d.grow file new).Keeps file content.node) : content = new := by
  obtain ⟨above, reached⟩ := keeps.reached
  rcases walkShrunk (.top vacant) (Disk.reachedAt reached) with ⟨n, arrived, -⟩ | ⟨-, same⟩
  · exact absurd arrived (vacantWalk (reachedProper proper reached).1 vacant)
  · have held := nodeContent content
    rw [same, nodeContent] at held
    exact (Option.some.inj held).symm

def Accounts (host : Host) (s : Settings) (plan : Plan) (found : List Place) (r : Result) : Prop :=
  ∃ outcomes,
    List.Forall₂ (fun file outcome => checkTarget host s file = .ok outcome ∧
      Verdict host.platform.codecs s plan (Place.toString file) (contents host.disk file) outcome)
      found outcomes ∧
    r.files = outcomes.filterMap Outcome.file? ∧ r.failures = outcomes.filterMap Outcome.failure? ∧
    r.success = some r.failures.isEmpty

structure Isolated (host : Host) (s : Settings) (plan : Plan) (path : String) (found : List Place) :
    Prop where
  regular : ∀ file ∈ found, host.disk.at? file = some (contents host.disk file).node
  once : Place.Ascending found
  accounted : ∀ r, checkPath host s path = .ok r → Accounts host s plan found r.1
  returns : (∃ r, checkPath host s path = .ok r) ↔
    ∀ file ∈ found, Checkable host.platform.codecs s plan (contents host.disk file)
  alike : ∀ (host' : Host) (path' : String) (found' : List Place), Discovers host' s path' found' →
    host'.now = host.now → host'.trace = host.trace → host'.platform = host.platform →
    ∀ file ∈ found, file ∈ found' → contents host'.disk file = contents host.disk file →
    checkTarget host' s file = checkTarget host s file
  /- One more file that cannot be read changes no result of another. -/
  added : ∀ (file : Place) (content : Content) (found' : List Place),
    let host' := { host with disk := host.disk.grow file content }
    file.all isName = true → host.disk.top.isVacant file = true → content.bytes.length ≤ maxSize →
    (∀ text, ¬ Reads host.platform.codecs s content text) →
    sources s host'.disk (host.disk.resolve (.ofString path)) = .ok found' →
    (checkPath host' s path).map (·.1.files) = (checkPath host s path).map (·.1.files)
  /- Nor does it matter how many workers there are, or in which order they come to an end. -/
  workers : ∀ (n : Int) (schedule : Schedule), 0 < n →
    checkPath { host with schedule } (s.set .maxWorkers (.int n)) path = checkPath host s path

section
variable {s s' : Settings} (same : ∀ setting, setting ≠ .maxWorkers → s'.get setting = s.get setting)
include same

theorem planSame (room : Nat) : Plan.ofSettings s' room = Plan.ofSettings s room := by
  simp only [Plan.ofSettings, same .indentUnit (by decide), same .tabWidth (by decide),
    same .enabled (by decide)]

theorem metadataSame (host : Host) (path : Path) : metadata host s' path = metadata host s path := by
  simp only [metadata, same .indentUnit (by decide), same .tabWidth (by decide), same .enabled (by decide)]

theorem sourcesSame (d : Disk) (root : Place) : sources s' d root = sources s d root := by
  simp only [sources, same .includePatterns (by decide), same .excludeDirs (by decide),
    same .excludeGlobs (by decide)]

theorem checkFileSame (host : Host) (path : String) (content : Content) :
    checkFile host s' path content = checkFile host s path content := by
  simp only [checkFile, readFile, same .maxFileSize (by decide), same .encoding (by decide), planSame same]

theorem checkPathSame {n n' : Quantity} (counted : workers s = .ok n) (counted' : workers s' = .ok n')
    (host : Host) (schedule : Schedule) (path : String) :
    checkPath { host with schedule } s' path = checkPath host s path := by
  have files (path : String) (content : Content) :
      checkFile { host with schedule } s' path content = checkFile host s path content :=
    checkFileSame same host path content
  have described (path : Path) : metadata { host with schedule } s' path = metadata host s path :=
    metadataSame same host path
  have missing (failure : Failure) (context path : Option String) (extra : Entries) :
      diagnose { host with schedule } failure context path extra = diagnose host failure context path extra := rfl
  simp only [checkPath, targets, sourcesSame same, described, checkFilesMapM, files, missing, counted, counted',
    bind, Except.bind]

end

theorem workersSet (s : Settings) (n : Int) : workers (s.set .maxWorkers (.int n)) = .ok (.whole n) := by
  have got : (s.set .maxWorkers (.int n)).get .maxWorkers = .ok (.int n) := by
    simp [Settings.get, Settings.set]
  rw [workers, got]
  rfl

theorem getSetOther (s : Settings) (v : Value) {setting other : Setting} (different : other ≠ setting) :
    (s.set setting v).get other = s.get other := by
  rw [Settings.getSet, if_neg different]

theorem alikeElsewhere {host host' : Host} {s : Settings} {path path' : String}
    {found found' : List Place} (discovers : Discovers host s path found)
    (discovers' : Discovers host' s path' found') (moment : host'.now = host.now)
    (trace : host'.trace = host.trace) (platform : host'.platform = host.platform) {file : Place}
    (member : file ∈ found) (member' : file ∈ found')
    (content : contents host'.disk file = contents host.disk file) :
    checkTarget host' s file = checkTarget host s file := by
  have keeps := discoversKeeps discovers member
  have keeps' := discoversKeeps discovers' member'
  unfold checkTarget
  rw [content] at keeps' ⊢
  exact targetLocal s (discoversProper discovers) (discoversTop discovers) (discoversProper discovers')
    (discoversTop discovers') moment trace platform keeps keeps'

section
variable {host : Host} {s : Settings} {plan : Plan} {path : String} {found : List Place}
  (usable : Usable host.platform s plan) (discovers : Discovers host s path found)
include usable discovers

theorem checkPathOutcomes : ∃ build : List Outcome → Result × Log,
    checkPath host s path = (found.mapM (checkTarget host s)).map build ∧
    ∀ outcomes, (build outcomes).1.files = outcomes.filterMap Outcome.file? ∧
      (build outcomes).1.failures = outcomes.filterMap Outcome.failure? ∧
      (build outcomes).1.success = some (build outcomes).1.failures.isEmpty := by
  obtain ⟨about, described⟩ := metadataReturns usable.accepted host (.ofString path)
  obtain ⟨n, counted⟩ := usable.counted
  obtain ⟨warnings, log, whole⟩ := checkPathDirectory discovers described counted
  exact ⟨_, whole, fun outcomes => ⟨rfl, rfl, rfl⟩⟩

theorem checkPathFiles : (checkPath host s path).map (·.1.files) =
    (found.mapM (checkTarget host s)).map (·.filterMap Outcome.file?) := by
  obtain ⟨build, whole, parts⟩ := checkPathOutcomes usable discovers
  rw [whole]
  cases found.mapM (checkTarget host s) with
  | error fault => rfl
  | ok outcomes => simp [Except.map, (parts outcomes).1]

theorem accountedOnce {r : Result × Log} (returned : checkPath host s path = .ok r) :
    Accounts host s plan found r.1 := by
  obtain ⟨build, whole, parts⟩ := checkPathOutcomes usable discovers
  rw [whole] at returned
  obtain ⟨outcomes, ran, rfl⟩ := mapOk.mp returned
  refine ⟨outcomes, mapMEach ran fun file member outcome checked => ?_, parts outcomes⟩
  exact targetVerdict usable (discoversProper discovers) (discoversTop discovers)
    (discoversKeeps discovers member) checked

theorem returnsCheckable : (∃ r, checkPath host s path = .ok r) ↔
    ∀ file ∈ found, Checkable host.platform.codecs s plan (contents host.disk file) := by
  obtain ⟨build, whole, -⟩ := checkPathOutcomes usable discovers
  have ran : (∃ r, checkPath host s path = .ok r) ↔
      ∃ outcomes, found.mapM (checkTarget host s) = .ok outcomes := by
    rw [whole]
    cases found.mapM (checkTarget host s) <;> simp [Except.map]
  rw [ran, mapMTotal]
  refine forall₂_congr fun file member => ?_
  exact targetReturns usable (discoversProper discovers) (discoversTop discovers)
    (discoversKeeps discovers member)

theorem addedUnreadable {file : Place} {content : Content} {found' : List Place}
    (named : file.all isName = true) (vacant : host.disk.top.isVacant file = true)
    (sized : content.bytes.length ≤ maxSize) (unreadable : ∀ text, ¬ Reads host.platform.codecs s content text)
    (discovered : sources s (host.disk.grow file content) (host.disk.resolve (.ofString path)) = .ok found') :
    (checkPath { host with disk := host.disk.grow file content } s path).map (·.1.files) =
      (checkPath host s path).map (·.1.files) := by
  have discovers' := discoversGrown discovers named vacant sized discovered
  have usable' : Usable { host with disk := host.disk.grow file content }.platform s plan := usable
  have proper := discoversProper discovers
  have proper' := discoversProper discovers'
  have split := sourcesGrown proper (discoversSteps discovers) vacant proper' discovers.discovered
    discovers'.discovered
  rw [checkPathFiles usable discovers, checkPathFiles usable' discovers', split]
  refine mapMWithout (fun target member other => ?_) fun member => ?_
  · have inside : target ∈ found := by
      rw [split]
      exact List.mem_filter.mpr ⟨member, by simpa using other⟩
    exact alikeElsewhere discovers discovers' rfl rfl rfl inside member
      (contentsGrown vacant (discoversKeeps discovers inside))
  · have keeps := discoversKeeps discovers' member
    have new := contentsAdded vacant proper' keeps
    obtain ⟨category, refused⟩ :=
      (readableOrRefused usable content).resolve_left (by simpa using unreadable)
    obtain ⟨d, failed, -⟩ :=
      targetRefused usable' proper' (discoversTop discovers') keeps (new ▸ refused)
    exact ⟨.failed d, failed, rfl⟩

end

theorem directoryFailuresIsolated {host : Host} {s : Settings} {path : String} {found : List Place}
    (valid : s.validate host.platform.codecs = .ok ()) (plain : ∀ g, s.outline g = none)
    (discovers : Discovers host s path found) :
    ∃ plan, Plan.ofSettings s host.platform.room = .ok plan ∧ Isolated host s plan path found := by
  obtain ⟨plan, usable⟩ := validatedUsable valid plain
  obtain ⟨n, counted⟩ := usable.counted
  exact ⟨plan, usable.accepted,
    { regular := fun file member => Disk.keepsAt (discoversKeeps discovers member)
      once := sourcesAscending discovers.discovered
      accounted := fun r => accountedOnce usable discovers
      returns := returnsCheckable usable discovers
      alike := fun host' path' found' discovers' moment trace platform file =>
        alikeElsewhere discovers discovers' moment trace platform
      added := fun file content found' => addedUnreadable usable discovers
      workers := fun m schedule _ =>
        checkPathSame (fun setting => getSetOther s (.int m)) counted (workersSet s m) host schedule path }⟩

def mixedFiles : Host :=
  { disk :=
      { top := .dir [("d", .dir [("a.c", .file [120, 10]), ("b.c", .file [255]),
          ("c.c", .sealed [120, 10] ⟨13, "Permission denied", false⟩)])]
        current := [], home := [] } }

theorem mixedFilesIsolated : ∃ plan, Plan.ofSettings {} mixedFiles.platform.room = .ok plan ∧
    Isolated mixedFiles {} plan "d" [["d", "a.c"], ["d", "b.c"], ["d", "c.c"]] :=
  directoryFailuresIsolated rfl (fun _ => rfl) ⟨rfl, ⟨_, rfl⟩, rfl⟩

def tabbedFiles : Host :=
  { disk :=
      { top := .dir [("d", .dir [("a.c", .file [9, 120, 10]), ("b.c", .file [120, 10])])]
        current := [], home := [] } }

/- With a tab width that passes validation one readable file takes the results of all others with it. -/
theorem wideTabStopsTheRun :
    wideTabs.validate tabbedFiles.platform.codecs = .ok () ∧ (∀ g, wideTabs.outline g = none) ∧
    Discovers tabbedFiles wideTabs "d" [["d", "a.c"], ["d", "b.c"]] ∧
    (∃ text, Reads tabbedFiles.platform.codecs wideTabs (contents tabbedFiles.disk ["d", "a.c"]) text) ∧
    (∃ text, Reads tabbedFiles.platform.codecs wideTabs (contents tabbedFiles.disk ["d", "b.c"]) text) ∧
    checkPath tabbedFiles wideTabs "d" = .error (.tab .uncountable) :=
  ⟨rfl, fun _ => rfl, ⟨rfl, ⟨_, rfl⟩, rfl⟩,
    ⟨"\tx\n".toList, rfl, ⟨_, rfl, rfl⟩, _, _, rfl, rfl, rfl⟩,
    ⟨"x\n".toList, rfl, ⟨_, rfl, rfl⟩, _, _, rfl, rfl, rfl⟩, rfl⟩

end IndentLint.Check
