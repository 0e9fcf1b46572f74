import IndentLint.Storage.Path
import Mathlib.Data.List.Basic

/-! Places as texts. The text of a place leads back to it, because no name holds a slash, and it is no
longer than the text of any path that leads to the place by name. -/
namespace IndentLint

namespace Text

theorem splitOnAgrees (sep : Char) (text : List Char) : splitOn sep text = text.splitOn sep := by
  induction text with
  | nil => rfl
  | cons c rest ih =>
    rw [splitOn, List.splitOn_cons_eq_if_modifyHead, ih]
    by_cases ends : c = sep
    · simp [ends]
    · cases split : rest.splitOn sep with
      | nil => exact absurd split (List.splitOn_ne_nil sep rest)
      | cons piece pieces => simp [ends]

theorem splitOnFree {sep : Char} {text piece : List Char} (member : piece ∈ splitOn sep text) :
    sep ∉ piece := by
  fun_induction splitOn sep text generalizing piece with
  | case1 => simp_all
  | case2 rest ih =>
    rcases List.mem_cons.mp member with rfl | behind
    · simp
    · exact ih behind
  | case3 c rest other empty ih =>
    rw [List.mem_singleton.mp member]
    simpa using Ne.symm other
  | case4 c rest other first pieces split ih =>
    rw [split] at ih
    rcases List.mem_cons.mp member with rfl | behind
    · have free := ih List.mem_cons_self
      simp [free, Ne.symm other]
    · exact ih (List.mem_cons_of_mem first behind)

end Text

namespace Storage

def isName (name : String) : Bool :=
  name ≠ "" && name ≠ "." && name ≠ ".." && !name.toList.contains '/'

def isStep (part : String) : Bool := part = ".." || isName part

theorem isNameStep {name : String} (ordinary : isName name = true) : isStep name = true := by
  simp [isStep, ordinary]

def isSaid (part : String) : Bool := part ≠ "" && part ≠ "."

def said (parts : List String) : List String := parts.filter isSaid

theorem namesSteps {path : List String} (named : path.all isName = true) : path.all isStep = true :=
  List.all_eq_true.mpr fun _ member => isNameStep (List.all_eq_true.mp named _ member)

theorem isNameInward {name : String} (ordinary : isName name = true) : name ≠ ".." := by
  simp only [isName, Bool.and_eq_true] at ordinary
  simpa using ordinary.1.2

section
variable {part : String} (step : isStep part = true)
include step

theorem stepPlain : '/' ∉ part.toList := by
  simp only [isStep, isName, Bool.or_eq_true, decide_eq_true_eq, Bool.and_eq_true] at step
  rcases step with rfl | ordinary
  · decide
  · simpa using ordinary.2

theorem stepSaid : isSaid part = true := by
  simp only [isStep, isName, Bool.or_eq_true, decide_eq_true_eq, Bool.and_eq_true] at step
  rcases step with rfl | ordinary
  · decide
  · simpa [isSaid] using ordinary.1.1

theorem stepSpelled : ∃ c more, part.toList = c :: more ∧ c ≠ '/' := by
  cases spelled : part.toList with
  | nil => simp [String.toList_eq_nil_iff.mp spelled, isStep, isName] at step
  | cons c more =>
    have free := stepPlain step
    rw [spelled] at free
    exact ⟨c, more, rfl, fun same => free (by simp [same])⟩

end

theorem ofStringSteps (path : String) : (Path.ofString path).parts.all isStep = true := by
  refine List.all_eq_true.mpr fun part member => ?_
  obtain ⟨piece, speaks⟩ := List.mem_filter.mp member
  obtain ⟨chars, split, rfl⟩ := List.mem_map.mp piece
  have free := Text.splitOnFree split
  by_cases outward : String.ofList chars = ".."
  · simp [isStep, outward]
  · simpa [isStep, isName, outward, free] using speaks

section
variable {path : List String} (steps : path.all isStep = true)
include steps

theorem saidSteps : said path = path :=
  List.filter_eq_self.mpr fun _ member => stepSaid (List.all_eq_true.mp steps _ member)

theorem piecesToString (nonempty : path ≠ []) : pieces (Place.toString path) = "" :: path := by
  have free : ∀ piece ∈ [] :: path.map String.toList, '/' ∉ piece := by
    intro piece member
    rcases List.mem_cons.mp member with rfl | named
    · simp
    · obtain ⟨part, inside, rfl⟩ := List.mem_map.mp named
      exact stepPlain (List.all_eq_true.mp steps part inside)
  have joined : (Place.toString path).toList = ['/'].intercalate ([] :: path.map String.toList) := by
    obtain ⟨first, rest, rfl⟩ := List.exists_cons_of_ne_nil nonempty
    simp [Place.toString]
  rw [pieces, joined, Text.splitOnAgrees, List.splitOn_intercalate '/' free (by simp)]
  simp

theorem saidToString : said (pieces (Place.toString path)) = path := by
  by_cases nonempty : path = []
  · subst nonempty
    rfl
  · rw [piecesToString steps nonempty]
    exact saidSteps steps

theorem rootToString : Path.rootOf (Place.toString path).toList = "/" := by
  cases path with
  | nil => rfl
  | cons first rest =>
    obtain ⟨c, more, spelled, plain⟩ := stepSpelled (List.all_eq_true.mp steps first List.mem_cons_self)
    have single : (Place.toString (first :: rest)).toList.takeWhile (· = '/') = ['/'] := by
      cases rest <;> simp [Place.toString, spelled, plain]
    rw [Path.rootOf, single]

theorem ofStringToString : Path.ofString (Place.toString path) = ⟨"/", path⟩ := by
  rw [Path.ofString, rootToString steps]
  exact congrArg (Path.mk "/") (saidToString steps)

end

theorem followNames {place : Place} (named : place.all isName = true) {parts : List String}
    (steps : parts.all isStep = true) : (Place.follow place parts).all isName = true := by
  induction parts generalizing place with
  | nil => exact named
  | cons part rest ih =>
    simp only [List.all_cons, Bool.and_eq_true] at steps
    have once : (if part = ".." then place.dropLast else place ++ [part]).all isName = true := by
      split
      · exact List.all_eq_true.mpr fun name member =>
          List.all_eq_true.mp named name (List.dropLast_subset place member)
      · rename_i inward
        have ordinary : isName part = true := by simpa [isStep, inward] using steps.1
        simp [named, ordinary]
    exact ih once steps.2

section
variable (place : Place) (part : String)

theorem followSilent {part : String} (silent : isSaid part = false) :
    Place.follow place (said [part]) = place := by
  simp [said, silent, Place.follow]

theorem followBack : Place.follow place (said [".."]) = place.dropLast := by
  simp [said, show isSaid ".." = true from rfl, Place.follow]

theorem followDown {part : String} (speaks : isSaid part = true) (inward : part ≠ "..") :
    Place.follow place (said [part]) = place ++ [part] := by
  simp [said, speaks, inward, Place.follow]

theorem followConcat (parts : List String) {part : String} (inward : part ≠ "..") :
    Place.follow place (parts ++ [part]) = Place.follow place parts ++ [part] := by
  simp [Place.follow, inward]

theorem followCons (rest : List String) :
    Place.follow place (said (part :: rest)) =
      Place.follow (Place.follow place (said [part])) (said rest) := by
  rw [← List.singleton_append, said, List.filter_append, Place.follow, List.foldl_append]
  rfl

end

theorem followInward (place : Place) {names : List String} (named : names.all isName = true) :
    Place.follow place names = place ++ names := by
  induction names generalizing place with
  | nil => exact (List.append_nil place).symm
  | cons name rest ih =>
    simp only [List.all_cons, Bool.and_eq_true] at named
    have step : Place.follow place (name :: rest) = Place.follow (place ++ [name]) rest := by
      simp [Place.follow, isNameInward named.1]
    rw [step, ih _ named.2, List.append_assoc]
    rfl

def weight : List String → Nat
  | [] => 0
  | part :: rest => part.utf8ByteSize + 1 + weight rest

theorem weightAppend (path more : List String) : weight (path ++ more) = weight path + weight more := by
  induction path with
  | nil => simp [weight]
  | cons part rest ih =>
    rw [List.cons_append, weight, weight, ih]
    omega

theorem toStringSize (path : List String) : (Place.toString path).utf8ByteSize = max 1 (weight path) := by
  cases path with
  | nil => rfl
  | cons first rest =>
    have joined : ("/".intercalate (first :: rest)).utf8ByteSize + 1 = weight (first :: rest) := by
      induction rest generalizing first with
      | nil => simp [weight]
      | cons next rest ih =>
        have later := ih next
        rw [String.intercalate_cons_cons, String.utf8ByteSize_append, String.utf8ByteSize_append, weight,
          show "/".utf8ByteSize = 1 from rfl]
        omega
    rw [Place.toString, String.utf8ByteSize_append, show "/".utf8ByteSize = 1 from rfl]
    omega

theorem dropLastWeight (place : Place) : weight place.dropLast ≤ weight place := by
  rcases List.eq_nil_or_concat' place with rfl | ⟨front, last, rfl⟩
  · exact Nat.le_refl _
  · rw [List.dropLast_concat, weightAppend]
    exact Nat.le_add_right ..

theorem followWeight (place : Place) (parts : List String) :
    weight (Place.follow place parts) ≤ weight place + weight parts := by
  induction parts generalizing place with
  | nil => exact Nat.le_refl _
  | cons part rest ih =>
    have after := ih (if part = ".." then place.dropLast else place ++ [part])
    have once : weight (if part = ".." then place.dropLast else place ++ [part]) ≤
        weight place + (part.utf8ByteSize + 1) := by
      split
      · have shorter := dropLastWeight place
        omega
      · rw [weightAppend]
        exact Nat.le_refl _
    have step : Place.follow place (part :: rest) =
      Place.follow (if part = ".." then place.dropLast else place ++ [part]) rest := rfl
    rw [step, weight]
    omega

end Storage
end IndentLint
