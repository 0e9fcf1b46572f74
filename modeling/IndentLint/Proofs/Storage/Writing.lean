import IndentLint.Proofs.Except
import IndentLint.Proofs.Storage.Growth

/-! Written files. A path that a file could be written to leads to it afterwards, with the content that were
written, though the way may go into directories and out of them again. -/
namespace IndentLint.Storage

def Node.isFree : Place → Node → Bool
  | [], n => n.isFile
  | [name], n => n.isDir && (n.child? name).all Node.isFile
  | name :: next :: rest, n => (n.child? name).any (Node.isFree (next :: rest))

inductive Altered (file : Place) (content : Content) (place : Place) : Node → Node → Prop where
  | towards {rest n} (split : file = place ++ rest) (free : n.isFree rest = true) :
      Altered file content place n (Node.place content.node rest n)
  | aside {n} (other : ¬ place <+: file) : Altered file content place n n

theorem freeDirectory {name : String} {rest : Place} {n : Node} (free : n.isFree (name :: rest) = true) :
    n.isFile = false := by
  cases rest with
  | nil =>
    simp only [Node.isFree, Node.isDir, Bool.and_eq_true, Bool.not_eq_true'] at free
    exact free.1
  | cons next rest =>
    obtain ⟨child, there, -⟩ := (Option.any_eq_true ..).mp free
    exact childOfDirectory there

theorem freeChild {name : String} {rest : Place} {n child : Node} (free : n.isFree (name :: rest) = true)
    (entry : n.child? name = some child) : child.isFree rest = true := by
  cases rest with
  | nil =>
    simp only [Node.isFree, entry, Bool.and_eq_true] at free
    exact free.2
  | cons next rest =>
    simp only [Node.isFree, entry] at free
    exact free

section
variable {file place : Place} {content : Content} {here here' : Node}
  (altered : Altered file content place here here')
include altered

theorem alteredFile : here'.isFile = here.isFile := by
  cases altered with
  | @towards rest _ split free =>
    cases rest with
    | nil => exact (nodeFile content).trans free.symm
    | cons name rest =>
      rw [freeDirectory free]
      rfl
  | aside other => rfl

theorem alteredChild {name : String} {child : Node} (entry : here.child? name = some child) :
    ∃ child', here'.child? name = some child' ∧ Altered file content (place ++ [name]) child child' := by
  cases altered with
  | aside other =>
    exact ⟨child, entry, .aside fun longer => other ((List.prefix_append ..).trans longer)⟩
  | @towards rest _ split free =>
    cases rest with
    | nil => exact absurd free (by simp [Node.isFree, childOfDirectory entry])
    | cons first more =>
      have found := childPlace content.node first more here name
      by_cases same : name = first
      · subst same
        rw [if_pos rfl, entry] at found
        exact ⟨_, found, .towards (by simpa using split) (freeChild free entry)⟩
      · have apart : ¬ place ++ [name] <+: file := by
          rw [split, List.prefix_append_right_inj]
          simpa using same
        rw [if_neg same, entry] at found
        exact ⟨child, found, .aside apart⟩

end

inductive Alongside (file : Place) (content : Content) (top : Node) :
    Place → List Node → Node → List Node → Node → Prop where
  | top (free : top.isFree file = true) :
      Alongside file content top [] [] top [] (Node.place content.node file top)
  | down {place above here above' here' name n n'}
      (before : Alongside file content top place above here above' here')
      (altered : Altered file content (place ++ [name]) n n') :
      Alongside file content top (place ++ [name]) (here :: above) n (here' :: above') n'

theorem movesWalk {above beyond : List Node} {here next : Node} {part : String}
    (moves : Moves above here part beyond next) (rest : List String) :
    Disk.walk above here (part :: rest) = Disk.walk beyond next rest := by
  cases moves with
  | stay directory silent => simp [Disk.walk, directory, silentPart silent]
  | bottom directory => simp [Disk.walk, directory]
  | back directory => simp [Disk.walk, directory]
  | down leading entry =>
    have short := Nat.not_lt.mpr leading.short
    simp [Disk.walk, childOfDirectory entry, saidPart leading.said, leading.inward, short, entry]

section
variable {file place : Place} {content : Content} {top : Node} {above above' : List Node}
  {here here' : Node} (alongside : Alongside file content top place above here above' here')
include alongside

theorem alongsideAltered : Altered file content place here here' := by
  cases alongside with
  | top free => exact .towards rfl free
  | down before altered => exact altered

theorem movesAltered {part : String} {beyond : List Node} {next : Node}
    (moves : Moves above here part beyond next) :
    ∃ beyond' next', Moves above' here' part beyond' next' ∧
      Alongside file content top (Place.follow place (said [part])) beyond next beyond' next' := by
  have kind := alteredFile (alongsideAltered alongside)
  cases moves with
  | stay directory silent =>
    rw [followSilent place silent]
    exact ⟨above', here', .stay (kind.trans directory) silent, alongside⟩
  | bottom directory =>
    cases alongside with
    | top free => exact ⟨[], _, .bottom (kind.trans directory), .top free⟩
  | back directory =>
    cases alongside with
    | down before altered =>
      rw [followBack, List.dropLast_concat]
      exact ⟨_, _, .back (kind.trans directory), before⟩
  | down leading entry =>
    rw [followDown place leading.said leading.inward]
    obtain ⟨child', found, altered⟩ := alteredChild (alongsideAltered alongside) entry
    exact ⟨_, _, .down leading found, .down alongside altered⟩

theorem walkAltered {parts : List String} {n : Node} (walked : Disk.walk above here parts = .ok n) :
    ∃ beyond beyond' n', Alongside file content top (Place.follow place (said parts)) beyond n beyond' n' ∧
      ∀ more, Disk.walk above' here' (parts ++ more) = Disk.walk beyond' n' more := by
  induction parts generalizing place above here above' here' with
  | nil =>
    obtain rfl := Except.ok.inj walked
    exact ⟨above, above', here', alongside, fun more => rfl⟩
  | cons part rest ih =>
    obtain ⟨beyond, next, moves, later⟩ := walkCons.mp walked
    obtain ⟨beyond', next', moves', alongside⟩ := movesAltered alongside moves
    obtain ⟨last, last', n', alongside, on⟩ := ih alongside later
    rw [followCons]
    exact ⟨last, last', n', alongside, fun more => (movesWalk moves' _).trans (on more)⟩

end

theorem reachedFree {top : Node} {place : Place} {above : List Node} {n : Node} (reached : Reached top place above n)
    {rest : Place} (free : n.isFree rest = true) : top.isFree (place ++ rest) = true := by
  induction reached generalizing rest with
  | top => exact free
  | @down place above here name n before leading entry ih =>
    rw [List.append_assoc]
    refine ih ?_
    cases rest with
    | nil => simpa [Node.isFree, entry, Node.isDir, childOfDirectory entry] using free
    | cons next more => simpa [Node.isFree, entry] using free

theorem walkOn {top : Node} {place : Place} {above : List Node} {here n : Node} {parts : List String}
    (reached : Reached top place above here) (walked : Disk.walk above here parts = .ok n) :
    ∃ beyond, Reached top (Place.follow place (said parts)) beyond n ∧
      ∀ more, Disk.walk above here (parts ++ more) = Disk.walk beyond n more := by
  induction parts generalizing place above here with
  | nil =>
    obtain rfl := Except.ok.inj walked
    exact ⟨above, reached, fun more => rfl⟩
  | cons part rest ih =>
    obtain ⟨beyond, next, moves, later⟩ := walkCons.mp walked
    obtain ⟨last, reached, on⟩ := ih (movesReached reached moves) later
    rw [followCons]
    exact ⟨last, reached, fun more => (movesWalk moves _).trans (on more)⟩

theorem walkSilent {above : List Node} {here n : Node} {front rest : List String} {part : String}
    (silent : isSaid part = false) (walked : Disk.walk above here (front ++ part :: rest) = .ok n) :
    Disk.walk above here (front ++ rest) = .ok n := by
  induction front generalizing above here with
  | nil =>
    obtain ⟨_, _, moves, later⟩ := walkCons.mp walked
    cases moves with
    | stay directory silent => exact later
    | bottom directory => contradiction
    | back directory => contradiction
    | down leading entry =>
      rw [leading.said] at silent
      contradiction
  | cons first front ih =>
    obtain ⟨beyond, next, moves, later⟩ := walkCons.mp walked
    exact walkCons.mpr ⟨beyond, next, moves, ih later⟩

theorem walkMissing {above : List Node} {here : Node} {part : String}
    (missing : Disk.walk above here [part] = .error .missing) :
    here.isFile = false ∧ Leading part ∧ here.child? part = none := by
  unfold Disk.walk at missing
  split at missing
  · cases missing
  rename_i directory
  split at missing
  · cases missing
  rename_i speaks
  split at missing
  · split at missing <;> cases missing
  rename_i inward
  split at missing
  · cases missing
  rename_i short
  split at missing
  · rename_i absent
    exact ⟨by simpa using directory, ⟨by simpa [isSaid] using speaks, inward, Nat.not_lt.mp short⟩, absent⟩
  · cases missing

theorem walkOverwritten {top : Node} {parts : List String} {old : Content} (content : Content)
    (walked : Disk.walk [] top parts = .ok old.node) :
    Disk.walk [] (Node.place content.node (Place.follow [] (said parts)) top) parts = .ok content.node := by
  obtain ⟨beyond, reached, -⟩ := walkOn .top walked
  have free : top.isFree (Place.follow [] (said parts) ++ []) = true := reachedFree reached (nodeFile old)
  rw [List.append_nil] at free
  have start : Alongside _ content top [] [] top [] _ := .top free
  obtain ⟨_, beyond', n', alongside, on⟩ := walkAltered start walked
  have arrived := on []
  rw [List.append_nil] at arrived
  rw [arrived]
  cases alongsideAltered alongside with
  | aside other => exact absurd (List.prefix_refl _) other
  | towards split _ =>
    rw [List.self_eq_append_right.mp split]
    rfl

theorem walkCreated {top n : Node} {front : List String} {last : String} (content : Content)
    (walked : Disk.walk [] top front = .ok n) (missing : Disk.walk [] top (front ++ [last]) = .error .missing) :
    Disk.walk [] (Node.place content.node (Place.follow [] (said (front ++ [last]))) top) (front ++ [last]) =
      .ok content.node := by
  obtain ⟨beyond, reached, on⟩ := walkOn .top walked
  rw [on] at missing
  obtain ⟨directory, leading, absent⟩ := walkMissing missing
  have place : Place.follow [] (said (front ++ [last])) = Place.follow [] (said front) ++ [last] := by
    rw [said, List.filter_append, show [last].filter isSaid = [last] by simp [leading.said]]
    exact followConcat [] _ leading.inward
  have free : top.isFree (Place.follow [] (said front) ++ [last]) = true :=
    reachedFree reached (by simp [Node.isFree, Node.isDir, directory, absent])
  have start : Alongside _ content top [] [] top [] _ := .top free
  obtain ⟨_, beyond', n', alongside, on⟩ := walkAltered start walked
  rw [place]
  rw [on]
  cases alongsideAltered alongside with
  | aside other => exact absurd (List.prefix_append ..) other
  | towards split _ =>
    rw [← List.append_cancel_left split]
    have entry := childPlace content.node last [] n last
    rw [if_pos rfl] at entry
    exact walkCons.mpr ⟨_, _, .down leading entry, rfl⟩

/-! ### Pieces of paths -/

theorem piecesFree {path part : String} (member : part ∈ pieces path) : '/' ∉ part.toList := by
  obtain ⟨chars, split, rfl⟩ := List.mem_map.mp member
  simpa using Text.splitOnFree split

theorem piecesJoined {parts : List String} (free : ∀ part ∈ parts, '/' ∉ part.toList) (some : parts ≠ []) :
    pieces ("/".intercalate parts) = parts := by
  have free : ∀ piece ∈ parts.map String.toList, '/' ∉ piece := by
    intro piece member
    obtain ⟨part, inside, rfl⟩ := List.mem_map.mp member
    exact free part inside
  have joined : ("/".intercalate parts).toList = ['/'].intercalate (parts.map String.toList) := by simp
  rw [pieces, joined, Text.splitOnAgrees, List.splitOn_intercalate '/' free (by simpa using some)]
  simp

theorem splitOnEnd (sep : Char) (text : List Char) :
    Text.splitOn sep (text ++ [sep]) = Text.splitOn sep text ++ [[]] := by
  induction text with
  | nil => simp [Text.splitOn]
  | cons c rest ih =>
    have more : Text.splitOn sep rest ≠ [] := Text.splitOnAgrees sep rest ▸ List.splitOn_ne_nil sep rest
    obtain ⟨piece, others, split⟩ := List.exists_cons_of_ne_nil more
    rw [List.cons_append, Text.splitOn, Text.splitOn, ih, split]
    by_cases ends : c = sep <;> simp [ends]

theorem piecesSlash (path : String) : pieces (path ++ "/") = pieces path ++ [""] := by
  have chars : (path ++ "/").toList = path.toList ++ ['/'] := by simp
  rw [pieces, pieces, chars, splitOnEnd, List.map_append]
  rfl

theorem piecesRooted {path : String} :
    path.toList.head? = some '/' ↔ ∃ part rest, pieces path = "" :: part :: rest := by
  unfold pieces
  cases path.toList with
  | nil => simp [Text.splitOn]
  | cons c rest =>
    have more := List.splitOn_ne_nil '/' rest
    obtain ⟨piece, others, split⟩ := List.exists_cons_of_ne_nil more
    rw [Text.splitOn, Text.splitOnAgrees, split]
    by_cases slash : c = '/'
    · simp [slash]
    · simp [slash]

namespace Disk

theorem componentsResolve {d : Disk} (named : d.current.all isName = true) (path : String) :
    Place.follow [] (said (d.components path)) = d.resolve (.ofString path) := by
  have parts : (Path.ofString path).parts = said (pieces path) := rfl
  have absolute : (Path.ofString path).isAbsolute = true ↔ path.toList.head? = some '/' := by
    unfold Path.ofString Path.isAbsolute Path.rootOf
    cases path.toList with
    | nil => simp
    | cons c rest =>
      by_cases slash : c = '/'
      · simp only [slash, List.head?_cons, iff_true]
        split <;> simp_all
      · simp [slash]
  unfold components resolve
  by_cases rooted : path.toList.head? = some '/'
  · rw [if_pos rooted, if_pos (absolute.mpr rooted), parts]
  · have here : Place.follow [] (said d.current) = d.current := by
      rw [saidSteps (namesSteps named), followInward [] named, List.nil_append]
    have split : Place.follow [] (said (d.current ++ pieces path)) =
        Place.follow (Place.follow [] (said d.current)) (said (pieces path)) := by
      rw [said, List.filter_append, Place.follow, List.foldl_append]
      rfl
    rw [if_neg rooted, if_neg (mt absolute.mp rooted), parts, split, here]

theorem lookupOk {d : Disk} {path : String} {n : Node} : d.lookup path = .ok n ↔
    path ≠ "" ∧ path.utf8ByteSize ≤ maxPath ∧ walk [] d.top (d.components path) = .ok n := by
  rw [lookup, refuseOk, refuseOk, Nat.not_lt]

theorem lookupMissing {d : Disk} {path : String} (nonempty : path ≠ "") (missing : d.lookup path = .error .missing) :
    path.utf8ByteSize ≤ maxPath ∧ walk [] d.top (d.components path) = .error .missing := by
  rw [lookup, if_neg nonempty] at missing
  split at missing
  · cases missing
  · rename_i short
    exact ⟨Nat.not_lt.mp short, missing⟩

theorem hasLookup {d : Disk} {path : String} (has : d.has path = true) : ∃ n, d.lookup path = .ok n := by
  unfold Disk.has at has
  split at has
  · rename_i n found
    exact ⟨n, found⟩
  · cases has

theorem holderWalk {d : Disk} {path : String} {init : List String} {last : String} {n : Node}
    (split : pieces path = init ++ [last])
    (found : d.lookup (if path.toList.head? = some '/' then "/".intercalate init ++ "/"
      else "/".intercalate ("." :: init)) = .ok n) :
    ∃ front, d.components path = front ++ [last] ∧ walk [] d.top front = .ok n := by
  have free : ∀ part ∈ init, '/' ∉ part.toList := fun part member =>
    piecesFree (split ▸ List.mem_append_left _ member)
  obtain ⟨-, -, walked⟩ := lookupOk.mp found
  by_cases rooted : path.toList.head? = some '/'
  · obtain ⟨part, rest, shape⟩ := piecesRooted.mp rooted
    -- A path with a slash at its start has a piece before its last one.
    obtain ⟨more, rfl⟩ : ∃ more, init = "" :: more := by
      cases init with
      | nil => simp [split] at shape
      | cons first more => exact ⟨more, by rw [split] at shape; rw [(List.cons.inj shape).1]⟩
    have holder : pieces ("/".intercalate ("" :: more) ++ "/") = "" :: (more ++ [""]) := by
      rw [piecesSlash, piecesJoined free (by simp), List.cons_append]
    have begins : ("/".intercalate ("" :: more) ++ "/").toList.head? = some '/' := by
      obtain ⟨next, others, tail⟩ := List.exists_cons_of_ne_nil (show more ++ [""] ≠ [] by simp)
      exact piecesRooted.mpr ⟨next, others, by rw [holder, tail]⟩
    rw [if_pos rooted, components, if_pos begins, holder] at walked
    refine ⟨"" :: more, by rw [components, if_pos rooted, split], ?_⟩
    have silent : walk [] d.top ("" :: more ++ []) = .ok n := walkSilent (by decide) walked
    rwa [List.append_nil] at silent
  · have holder : pieces ("/".intercalate ("." :: init)) = "." :: init := by
      refine piecesJoined (fun part member => ?_) (by simp)
      rcases List.mem_cons.mp member with rfl | inside
      · decide
      · exact free part inside
    have begins : ¬ ("/".intercalate ("." :: init)).toList.head? = some '/' := by
      rw [piecesRooted, holder]
      simp
    rw [if_neg rooted, components, if_neg begins, holder] at walked
    exact ⟨d.current ++ init, by rw [components, if_neg rooted, split, List.append_assoc],
      walkSilent (by decide) walked⟩

def Unsealed (d : Disk) (path : String) : Prop := ∀ bytes refusal, d.lookup path ≠ .ok (.sealed bytes refusal)

theorem writtenRead {d d' : Disk} {path : String} {bytes : List UInt8} (named : d.current.all isName = true)
    (unsealed : d.Unsealed path) (written : d.write path bytes = .ok d') : d'.read path = .ok bytes := by
  have place := componentsResolve named path
  -- What is left to show is that the path leads to the file in the new tree.
  have back (nonempty : path ≠ "") (fits : path.utf8ByteSize ≤ maxPath) (same : d' = { d with
      top := Node.place (.file bytes) (d.resolve (.ofString path)) d.top })
      (walked : walk [] (Node.place (.file bytes) (Place.follow [] (said (d.components path))) d.top)
        (d.components path) = .ok (.file bytes)) : d'.read path = .ok bytes := by
    subst same
    rw [place] at walked
    rw [read, lookupOk.mpr ⟨nonempty, fits, walked⟩]
  unfold write at written
  obtain ⟨-, written⟩ := refuseOk.mp written
  split at written
  · rename_i old found
    obtain ⟨nonempty, fits, walked⟩ := lookupOk.mp found
    have walked : walk [] d.top (d.components path) = .ok (Content.node { bytes := old }) := walked
    cases written
    exact back nonempty fits rfl (walkOverwritten { bytes } walked)
  · rename_i old refusal found
    exact absurd found (unsealed old refusal)
  · cases written
  · rename_i missing
    obtain ⟨held, written⟩ := guardOk.mp written
    obtain ⟨-, written⟩ := refuseOk.mp written
    cases written
    simp only [Bool.and_eq_true, decide_eq_true_eq] at held
    obtain ⟨nonempty, held⟩ := held
    obtain ⟨fits, missing⟩ := lookupMissing nonempty missing
    obtain ⟨n, held⟩ := hasLookup held
    have some : pieces path ≠ [] := by simp [pieces, Text.splitOnAgrees]
    obtain ⟨init, last, split⟩ := (List.eq_nil_or_concat' (pieces path)).resolve_left some
    rw [split, List.dropLast_concat] at held
    obtain ⟨front, shape, walked⟩ := holderWalk split held
    rw [shape] at missing
    refine back nonempty fits rfl ?_
    rw [shape]
    exact walkCreated { bytes } walked missing
  · cases written

theorem writtenAny {d d' : Disk} {path : String} {bytes : List UInt8} (written : d.write path bytes = .ok d')
    (other : List UInt8) : ∃ d'', d.write path other = .ok d'' := by
  unfold write at written ⊢
  obtain ⟨plain, written⟩ := refuseOk.mp written
  rw [if_neg plain]
  dsimp only [bind, Except.bind, pure, Except.pure]
  split at written
  · exact ⟨_, rfl⟩
  · exact ⟨_, rfl⟩
  · cases written
  · obtain ⟨held, written⟩ := guardOk.mp written
    obtain ⟨named, -⟩ := refuseOk.mp written
    exact ⟨_, guardOk.mpr ⟨held, refuseOk.mpr ⟨named, rfl⟩⟩⟩
  · cases written

end Disk
end IndentLint.Storage
