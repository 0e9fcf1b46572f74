import IndentLint.Proofs.Storage.Search

/-! A tree with one more file. Everything that was there is found as before, and the only path that
leads to something new leads to the file. -/
namespace IndentLint.Storage

def Node.isVacant : Place → Node → Bool
  | [], _ => false
  | [name], n => n.isDir && (n.child? name).isNone
  | name :: next :: rest, n => (n.child? name).any (Node.isVacant (next :: rest))

theorem lookupOther {name other : String} (different : other ≠ name) (n : Node)
    (entries : List (String × Node)) : ((name, n) :: entries).lookup other = entries.lookup other := by
  simp [List.lookup_cons, beq_eq_false_iff_ne.mpr different]

theorem lookupSet (name other : String) (n : Node) (entries : List (String × Node)) :
    (Node.setEntry name n entries).lookup other =
      if other = name then some n else entries.lookup other := by
  induction entries with
  | nil =>
    by_cases same : other = name
    · rw [if_pos same, same]
      exact List.lookup_cons_self
    · rw [if_neg same]
      exact lookupOther same n []
  | cons first rest ih =>
    obtain ⟨key, child⟩ := first
    by_cases replaced : key = name
    · subst replaced
      rw [Node.setEntry, if_pos rfl]
      by_cases same : other = key
      · rw [if_pos same, same, List.lookup_cons_self]
      · rw [if_neg same, lookupOther same, lookupOther same]
    · rw [Node.setEntry, if_neg replaced]
      by_cases same : other = key
      · subst same
        rw [if_neg replaced, List.lookup_cons_self, List.lookup_cons_self]
      · rw [lookupOther same, lookupOther same, ih]

theorem childPlace (leaf : Node) (first : String) (more : Place) (n : Node) (name : String) :
    (Node.place leaf (first :: more) n).child? name =
      if name = first then some (Node.place leaf more ((n.child? first).getD (.dir []))) else n.child? name :=
  lookupSet ..

theorem vacantDirectory {place : Place} {n : Node} (vacant : n.isVacant place = true) : n.isFile = false := by
  match place with
  | [] => contradiction
  | [_] =>
    simp only [Node.isVacant, Node.isDir, Bool.and_eq_true, Bool.not_eq_true'] at vacant
    exact vacant.1
  | _ :: _ :: _ =>
    obtain ⟨child, there, -⟩ := (Option.any_eq_true ..).mp vacant
    exact childOfDirectory there

theorem placedDirectory (leaf : Node) {place : Place} {n : Node} (vacant : n.isVacant place = true) :
    (Node.place leaf place n).isFile = false := by
  cases place with
  | nil => contradiction
  | cons first rest => rfl

theorem setNew {name : String} {entries : List (String × Node)} (absent : entries.lookup name = none)
    (n : Node) : Node.setEntry name n entries = entries ++ [(name, n)] := by
  induction entries with
  | nil => rfl
  | cons first rest ih =>
    obtain ⟨key, child⟩ := first
    by_cases same : name = key
    · rw [same, List.lookup_cons_self] at absent
      contradiction
    · rw [lookupOther same] at absent
      rw [Node.setEntry, if_neg (Ne.symm same), ih absent, List.cons_append]

def kinds (entries : List (String × Node)) : List (String × Bool) := entries.map fun e => (e.1, e.2.isFile)

theorem kindsMember {entries others : List (String × Node)} (same : kinds entries = kinds others)
    {name : String} {n : Node} (member : (name, n) ∈ entries) :
    ∃ other, (name, other) ∈ others ∧ other.isFile = n.isFile := by
  have listed : (name, n.isFile) ∈ kinds others := same ▸ List.mem_map_of_mem member
  obtain ⟨⟨key, other⟩, inside, pair⟩ := List.mem_map.mp listed
  obtain ⟨rfl, kind⟩ := Prod.mk.inj pair
  exact ⟨other, inside, kind⟩

section
variable {name : String} {entries : List (String × Node)} {old new : Node}
  (there : entries.lookup name = some old)
include there

theorem setKinds (same : new.isFile = old.isFile) :
    kinds (Node.setEntry name new entries) = kinds entries := by
  induction entries with
  | nil => contradiction
  | cons first rest ih =>
    obtain ⟨key, child⟩ := first
    by_cases replaced : name = key
    · rw [replaced, List.lookup_cons_self] at there
      obtain rfl := Option.some.inj there
      simp [Node.setEntry, replaced, kinds, same]
    · rw [lookupOther replaced] at there
      simpa [Node.setEntry, Ne.symm replaced, kinds] using ih there

theorem setDirectories (same : new.directories = old.directories) :
    Node.directoriesIn (Node.setEntry name new entries) = Node.directoriesIn entries := by
  induction entries with
  | nil => contradiction
  | cons first rest ih =>
    obtain ⟨key, child⟩ := first
    by_cases replaced : name = key
    · rw [replaced, List.lookup_cons_self] at there
      obtain rfl := Option.some.inj there
      simp [Node.setEntry, replaced, Node.directoriesIn, same]
    · rw [lookupOther replaced] at there
      simp [Node.setEntry, Ne.symm replaced, Node.directoriesIn, ih there]

end

theorem newDirectories (name : String) (content : Content) (entries : List (String × Node)) :
    Node.directoriesIn (entries ++ [(name, content.node)]) = Node.directoriesIn entries := by
  induction entries with
  | nil => simp [Node.directoriesIn, fileDirectories (nodeFile content)]
  | cons first rest ih =>
    obtain ⟨key, child⟩ := first
    rw [List.cons_append, Node.directoriesIn, Node.directoriesIn, ih]

theorem placedDirectories (content : Content) {place : Place} {n : Node}
    (vacant : n.isVacant place = true) :
    (Node.place content.node place n).directories = n.directories := by
  induction place generalizing n with
  | nil => contradiction
  | cons first more ih =>
    obtain ⟨entries, rfl⟩ := directoryNode (vacantDirectory vacant)
    rw [Node.place, Node.entries, Node.directories, Node.directories]
    cases more with
    | nil =>
      simp only [Node.isVacant, Bool.and_eq_true, Option.isNone_iff_eq_none] at vacant
      have absent : entries.lookup first = none := vacant.2
      rw [setNew absent]
      exact congrArg _ (newDirectories first content entries)
    | cons next more =>
      obtain ⟨child, there, below⟩ := (Option.any_eq_true ..).mp vacant
      rw [there]
      exact congrArg _ (setDirectories there (ih below))

inductive Grown (file : Place) (content : Content) (place : Place) : Node → Node → Prop where
  | towards {rest n} (split : file = place ++ rest) (vacant : n.isVacant rest = true) :
      Grown file content place n (Node.place content.node rest n)
  | aside {n} (other : ¬ place <+: file) : Grown file content place n n

section
variable {file place : Place} {content : Content} {here here' : Node}
  (grown : Grown file content place here here')
include grown

theorem grownFile : here'.isFile = here.isFile := by
  cases grown with
  | towards split vacant => rw [vacantDirectory vacant, placedDirectory _ vacant]
  | aside other => rfl

theorem grownSame (isFile : here.isFile = true) : here' = here := by
  cases grown with
  | towards split vacant => simp [vacantDirectory vacant] at isFile
  | aside other => rfl

theorem grownDirectories : here'.directories = here.directories := by
  cases grown with
  | towards split vacant => exact placedDirectories content vacant
  | aside other => rfl

theorem grownKinds : kinds here'.entries = kinds here.entries ∨
    ∃ name, file = place ++ [name] ∧ here'.entries = here.entries ++ [(name, content.node)] := by
  cases grown with
  | aside other => exact .inl rfl
  | @towards rest _ split vacant =>
    match rest with
    | [] => contradiction
    | [name] =>
      simp only [Node.isVacant, Bool.and_eq_true, Option.isNone_iff_eq_none] at vacant
      exact .inr ⟨name, split, setNew vacant.2 _⟩
    | name :: next :: more =>
      obtain ⟨child, there, below⟩ := (Option.any_eq_true ..).mp vacant
      refine .inl (setKinds there ?_)
      rw [there, vacantDirectory below]
      exact placedDirectory content.node below

theorem grownEntry {name : String} {child : Node} (member : (name, child) ∈ here.entries) :
    ∃ child', (name, child') ∈ here'.entries ∧ child'.isFile = child.isFile := by
  rcases grownKinds grown with same | ⟨new, -, longer⟩
  · exact kindsMember same.symm member
  · exact ⟨child, longer ▸ List.mem_append_left _ member, rfl⟩

theorem shrunkEntry {name : String} {child' : Node} (member : (name, child') ∈ here'.entries) :
    (∃ child, (name, child) ∈ here.entries ∧ child.isFile = child'.isFile) ∨
    (file = place ++ [name] ∧ child' = content.node) := by
  rcases grownKinds grown with same | ⟨new, split, longer⟩
  · exact .inl (kindsMember same member)
  · rw [longer, List.mem_append, List.mem_singleton] at member
    rcases member with before | added
    · exact .inl ⟨child', before, rfl⟩
    · obtain ⟨rfl, rfl⟩ := Prod.mk.inj added
      exact .inr ⟨split, rfl⟩

theorem grownChild (name : String) :
    (∃ child child', here.child? name = some child ∧ here'.child? name = some child' ∧
      Grown file content (place ++ [name]) child child') ∨
    (here.child? name = none ∧ here'.child? name = none) ∨
    (here.child? name = none ∧ here'.child? name = some content.node ∧ file = place ++ [name]) := by
  have unchanged (same : here'.child? name = here.child? name) (other : ¬ place ++ [name] <+: file) :
      (∃ child child', here.child? name = some child ∧ here'.child? name = some child' ∧
        Grown file content (place ++ [name]) child child') ∨
      (here.child? name = none ∧ here'.child? name = none) := by
    rw [same]
    cases here.child? name with
    | none => exact .inr ⟨rfl, rfl⟩
    | some child => exact .inl ⟨child, child, rfl, rfl, .aside other⟩
  cases grown with
  | aside other =>
    have apart : ¬ place ++ [name] <+: file := fun longer => other ((List.prefix_append ..).trans longer)
    exact or_assoc.mp (.inl (unchanged rfl apart))
  | @towards rest _ split vacant =>
    cases rest with
    | nil => contradiction
    | cons first more =>
      have entry := childPlace content.node first more here name
      by_cases same : name = first
      · subst same
        rw [if_pos rfl] at entry
        cases more with
        | nil =>
          simp only [Node.isVacant, Bool.and_eq_true, Option.isNone_iff_eq_none] at vacant
          exact .inr (.inr ⟨vacant.2, entry, split⟩)
        | cons next more =>
          obtain ⟨child, there, below⟩ := (Option.any_eq_true ..).mp vacant
          rw [there] at entry
          exact .inl ⟨child, _, there, entry, .towards (by simpa using split) below⟩
      · have apart : ¬ place ++ [name] <+: file := by
          rw [split, List.prefix_append_right_inj]
          simpa using same
        rw [if_neg same] at entry
        exact or_assoc.mp (.inl (unchanged entry apart))

end

inductive Beside (file : Place) (content : Content) (top : Node) :
    Place → List Node → Node → List Node → Node → Prop where
  | top (vacant : top.isVacant file = true) :
      Beside file content top [] [] top [] (Node.place content.node file top)
  | down {place above here above' here' name n n'} (before : Beside file content top place above here above' here')
      (grown : Grown file content (place ++ [name]) n n') :
      Beside file content top (place ++ [name]) (here :: above) n (here' :: above') n'

section
variable {file place : Place} {content : Content} {top : Node} {above above' : List Node}
  {here here' : Node} (beside : Beside file content top place above here above' here')
include beside

theorem besideGrown : Grown file content place here here' := by
  cases beside with
  | top vacant => exact .towards rfl vacant
  | down before grown => exact grown

theorem movesGrown {part : String} {beyond : List Node} {next : Node}
    (moves : Moves above here part beyond next) :
    ∃ beyond' next', Moves above' here' part beyond' next' ∧
      Beside file content top (Place.follow place (said [part])) beyond next beyond' next' := by
  have kind := grownFile (besideGrown beside)
  cases moves with
  | stay directory silent =>
    rw [followSilent place silent]
    exact ⟨above', here', .stay (kind.trans directory) silent, beside⟩
  | bottom directory =>
    cases beside with
    | top vacant => exact ⟨[], _, .bottom (kind.trans directory), .top vacant⟩
  | back directory =>
    cases beside with
    | down before grown =>
      rw [followBack, List.dropLast_concat]
      exact ⟨_, _, .back (kind.trans directory), before⟩
  | down leading entry =>
    rw [followDown place leading.said leading.inward]
    rcases grownChild (besideGrown beside) part with
      ⟨child, child', before, after, grown⟩ | ⟨absent, -⟩ | ⟨absent, -⟩
    · rw [entry] at before
      obtain rfl := Option.some.inj before
      exact ⟨_, _, .down leading after, .down beside grown⟩
    all_goals
      rw [entry] at absent
      contradiction

theorem movesShrunk {part : String} {beyond' : List Node} {next' : Node}
    (moves : Moves above' here' part beyond' next') :
    (∃ beyond next, Moves above here part beyond next ∧
      Beside file content top (Place.follow place (said [part])) beyond next beyond' next') ∨
    (Place.follow place (said [part]) = file ∧ next' = content.node) := by
  have kind := grownFile (besideGrown beside)
  cases moves with
  | stay directory silent =>
    rw [followSilent place silent]
    exact .inl ⟨above, here, .stay (kind.symm.trans directory) silent, beside⟩
  | bottom directory =>
    cases beside with
    | top vacant => exact .inl ⟨[], _, .bottom (kind.symm.trans directory), .top vacant⟩
  | back directory =>
    cases beside with
    | down before grown =>
      rw [followBack, List.dropLast_concat]
      exact .inl ⟨_, _, .back (kind.symm.trans directory), before⟩
  | down leading entry =>
    rw [followDown place leading.said leading.inward]
    rcases grownChild (besideGrown beside) part with
      ⟨child, child', before, after, grown⟩ | ⟨-, absent⟩ | ⟨-, after, split⟩
    · rw [entry] at after
      obtain rfl := Option.some.inj after
      exact .inl ⟨_, _, .down leading before, .down beside grown⟩
    · rw [entry] at absent
      contradiction
    · rw [entry] at after
      exact .inr ⟨split.symm, Option.some.inj after⟩

theorem walkGrown {parts : List String} {n : Node} (walked : Disk.walk above here parts = .ok n) :
    ∃ n', Disk.walk above' here' parts = .ok n' ∧
      Grown file content (Place.follow place (said parts)) n n' := by
  induction parts generalizing place above here above' here' with
  | nil =>
    obtain rfl := Except.ok.inj walked
    exact ⟨here', rfl, besideGrown beside⟩
  | cons part rest ih =>
    obtain ⟨beyond, next, moves, later⟩ := walkCons.mp walked
    obtain ⟨beyond', next', moves', beside⟩ := movesGrown beside moves
    obtain ⟨n', arrived, grown⟩ := ih beside later
    rw [followCons]
    exact ⟨n', walkCons.mpr ⟨beyond', next', moves', arrived⟩, grown⟩

/- What is found in the grown tree was there before, or is the file: from a file on there is no way. -/
theorem walkShrunk {parts : List String} {n' : Node} (walked : Disk.walk above' here' parts = .ok n') :
    (∃ n, Disk.walk above here parts = .ok n ∧
      Grown file content (Place.follow place (said parts)) n n') ∨
    (Place.follow place (said parts) = file ∧ n' = content.node) := by
  induction parts generalizing place above here above' here' with
  | nil =>
    obtain rfl := Except.ok.inj walked
    exact .inl ⟨here, rfl, besideGrown beside⟩
  | cons part rest ih =>
    obtain ⟨beyond', next', moves', later⟩ := walkCons.mp walked
    rw [followCons]
    rcases movesShrunk beside moves' with ⟨beyond, next, moves, beside⟩ | ⟨arrived, rfl⟩
    · rcases ih beside later with ⟨n, arrived, grown⟩ | new
      · exact .inl ⟨n, walkCons.mpr ⟨beyond, next, moves, arrived⟩, grown⟩
      · exact .inr new
    · cases rest with
      | nil => exact .inr ⟨arrived, (Except.ok.inj later).symm⟩
      | cons more rest =>
        obtain ⟨_, _, moves, -⟩ := walkCons.mp later
        exact absurd (movesDirectory moves) (by simp [nodeFile])

end
end IndentLint.Storage
