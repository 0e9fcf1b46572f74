import IndentLint.Proofs.Layout.Chains

/-! Alternatives without braces. A statement ends the whole chain of headers that it stands below, and leaves the
tracker where it was before the chain. An `else` behind it begins a chain of its own: it lines up with the
outermost header, and so with its own `if` only where no other header stands before that. -/
namespace IndentLint.Layout.Tracker

def IsStatement (text : List Char) : Prop :=
  '{' ∉ text ∧ '}' ∉ text ∧ (Text.trim text).getLast? = some ';'

instance decidableIsStatement (text : List Char) : Decidable (IsStatement text) :=
  inferInstanceAs (Decidable (_ ∧ _))

def innerTarget (s : Tracker Int) (levels : Nat) : Target Int := ⟨s.expected + levels * s.unit, false⟩

theorem innerTargetSame {s : Tracker Int} (unit : 0 < s.unit) (levels : Nat) :
    innerTarget s levels = innerTarget s 0 ↔ levels = 0 := by
  constructor
  · intro same
    have widths : s.expected + levels * s.unit = s.expected + (0 : Nat) * s.unit := congrArg Target.width same
    have none : levels * s.unit = 0 := by
      rw [Int.natCast_zero, Int.zero_mul] at widths
      omega
    exact Int.natCast_eq_zero.mp ((Int.mul_eq_zero.mp none).resolve_right (Int.ne_of_gt unit))
  · intro none
    rw [none]

section
variable {s : Tracker Int} (atRest : AtRest s) {headers : List (List Char)}
  (each : ∀ header ∈ headers, IsHeader header)
include atRest each

theorem headersEnter {text : List Char} (noOpen : '{' ∉ text) (noClose : '}' ∉ text) :
    (s.run headers).enter text = below s headers.length s.continuation := by
  rcases List.eq_nil_or_concat' headers with none | ⟨init, header, parts⟩
  · subst none
    have entered := belowNoneEnter noClose atRest s.continuation
    rw [belowNone atRest] at entered
    rw [List.length_nil, belowNone atRest]
    exact entered
  · subst parts
    rw [headersRun atRest init header each, afterHeaderEnter noClose atRest noOpen, List.length_append,
      List.length_singleton]

theorem headersTarget {text : List Char} (noOpen : '{' ∉ text) (noClose : '}' ∉ text) :
    ((s.run headers).enter text).target = innerTarget s headers.length := by
  rw [headersEnter atRest each noOpen noClose, target, belowIdle atRest]
  rfl

theorem chainRun {statement : List Char} (isStatement : IsStatement statement) :
    (s.run headers).feed statement = s := by
  obtain ⟨noOpen, noClose, last⟩ := isStatement
  rw [feed, headersEnter atRest each noOpen noClose, belowLeaveLast atRest noOpen noClose _ _ last,
    belowNone atRest]

theorem chainTargets {header statement : List Char} (isHeader : IsHeader header)
    (isStatement : IsStatement statement) :
    (s.run headers).targets [header, statement] =
        [innerTarget s headers.length, innerTarget s (headers.length + 1)] ∧
      (s.run headers).run [header, statement] = s := by
  have chain : ∀ line ∈ headers ++ [header], IsHeader line := by
    intro line mem
    rcases List.mem_append.mp mem with earlier | last
    · exact each line earlier
    · rwa [List.mem_singleton.mp last]
  have fed : (s.run headers).feed header = s.run (headers ++ [header]) := (runConcat s headers header).symm
  constructor
  · simp only [targets]
    rw [headersTarget atRest each isHeader.2.2.1 isHeader.2.2.2.1, fed,
      headersTarget atRest chain isStatement.1 isStatement.2.1, List.length_append, List.length_singleton]
  · change ((s.run headers).feed header).feed statement = s
    rw [fed]
    exact chainRun atRest chain isStatement

end

theorem alternativesLineUpOutermost {s : Tracker Int} (atRest : AtRest s) (headers : List (List Char))
    (each : ∀ header ∈ headers, IsHeader header) (condition statement alternative other : List Char)
    (isCondition : IsHeader condition) (isStatement : IsStatement statement)
    (isAlternative : IsHeader alternative) (isOther : IsStatement other) :
    let targets := (s.run headers).targets [condition, statement, alternative, other]
    targets = [innerTarget s headers.length, innerTarget s (headers.length + 1), innerTarget s 0, innerTarget s 1] ∧
      (targets[2]? = targets[0]? ↔ headers = []) ∧
      (s.run headers).run [condition, statement, alternative, other] = s := by
  obtain ⟨first, back⟩ := chainTargets atRest each isCondition isStatement
  have none : ∀ header ∈ ([] : List (List Char)), IsHeader header := by simp
  obtain ⟨second, again⟩ := chainTargets atRest none isAlternative isOther
  have parts : [condition, statement, alternative, other] = [condition, statement] ++ [alternative, other] := rfl
  have whole : (s.run headers).targets [condition, statement, alternative, other] =
      [innerTarget s headers.length, innerTarget s (headers.length + 1), innerTarget s 0, innerTarget s 1] := by
    rw [parts, targetsAppend, first, back]
    exact congrArg (_ ++ ·) second
  intro targets
  refine ⟨whole, ?_, ?_⟩
  · rw [show targets = _ from whole]
    simp only [List.getElem?_cons_zero, List.getElem?_cons_succ, Option.some.injEq]
    rw [eq_comm, innerTargetSame atRest.unit, List.length_eq_zero_iff]
  · change ((s.run headers).run [condition, statement]).run [alternative, other] = s
    rw [back]
    exact again

theorem loopedAlternativeLinesUp :
    AtRest blockTracker ∧ (∀ header ∈ loopedCondition, IsHeader header) ∧ IsHeader "if (c)".toList ∧
      IsStatement "while (d) x();".toList ∧ IsHeader "else".toList ∧ IsStatement "y();".toList ∧
      (blockTracker.run loopedCondition).targets
          ["if (c)".toList, "while (d) x();".toList, "else".toList, "y();".toList] =
        [⟨12, false⟩, ⟨16, false⟩, ⟨4, false⟩, ⟨8, false⟩] := by
  have atRest : AtRest blockTracker := ⟨rfl, rfl, by decide, by decide⟩
  have each : ∀ header ∈ loopedCondition, IsHeader header := by decide
  have condition : IsHeader "if (c)".toList := by decide
  have statement : IsStatement "while (d) x();".toList := by decide
  have alternative : IsHeader "else".toList := by decide
  have other : IsStatement "y();".toList := by decide
  have aligned := alternativesLineUpOutermost atRest loopedCondition each _ _ _ _ condition statement alternative other
  exact ⟨atRest, each, condition, statement, alternative, other, aligned.1⟩

/- Below a loop, the `else` is expected under the loop and not under its `if`. -/
theorem nestedAlternativeFallsBack :
    let inner := blockTracker.run ["for (;;)".toList]
    let targets := inner.targets ["if (c)".toList, "x();".toList, "else".toList, "y();".toList]
    AtRest blockTracker ∧ IsHeader "for (;;)".toList ∧ IsHeader "if (c)".toList ∧ IsStatement "x();".toList ∧
      IsHeader "else".toList ∧ IsStatement "y();".toList ∧ targets[2]? ≠ targets[0]? ∧
      targets = [⟨8, false⟩, ⟨12, false⟩, ⟨4, false⟩, ⟨8, false⟩] := by
  exact ⟨⟨rfl, rfl, by decide, by decide⟩, by decide, by decide, by decide, by decide, by decide, by decide, by decide⟩

end IndentLint.Layout.Tracker
