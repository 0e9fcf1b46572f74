import Mathlib.Data.List.Forall2

/-! Computations that may stop. What a result that was returned says of the steps before it. -/
namespace IndentLint

section
variable {ε ε' α β : Type}

theorem bindOk {first : Except ε α} {next : α → Except ε β} {result : β} :
    (first >>= next) = .ok result ↔ ∃ value, first = .ok value ∧ next value = .ok result := by
  cases first <;> simp [bind, Except.bind]

theorem bindError {first : Except ε α} {next : α → Except ε β} {fault : ε} :
    (first >>= next) = .error fault ↔
      first = .error fault ∨ ∃ value, first = .ok value ∧ next value = .error fault := by
  cases first <;> simp [bind, Except.bind]

theorem mapOk {f : α → β} {x : Except ε α} {result : β} :
    x.map f = .ok result ↔ ∃ value, x = .ok value ∧ f value = result := by
  cases x <;> simp [Except.map]

theorem guardOk {c : Prop} [Decidable c] {x : Except ε α} {fault : ε} {value : α} :
    (if c then x else .error fault) = .ok value ↔ c ∧ x = .ok value := by
  split <;> simp_all

theorem refuseOk {c : Prop} [Decidable c] {x : Except ε α} {fault : ε} {value : α} :
    (if c then .error fault else x) = .ok value ↔ ¬ c ∧ x = .ok value := by
  split <;> simp_all

theorem okHolds {x : Except ε α} {p : α → Bool} (holds : x.toOption.any p = true) :
    ∃ value, x = .ok value ∧ p value = true := by
  cases x with
  | error _ => contradiction
  | ok value => exact ⟨value, rfl, holds⟩

theorem okStands {x : Except ε α} {stands : Prop} {reason : ε → Prop} (returns : x.isOk = true)
    (ends : stands ∨ ∃ fault, reason fault ∧ x = .error fault) : stands := by
  rcases ends with kept | ⟨fault, -, stopped⟩
  · exact kept
  · rw [stopped] at returns
    contradiction

theorem errorHolds {x : Except ε α} {p : ε → Bool} (holds : (match x with
      | .error fault => p fault
      | .ok _ => false) = true) :
    ∃ fault, x = .error fault ∧ p fault = true := by
  cases x with
  | error fault => exact ⟨fault, rfl, holds⟩
  | ok _ => contradiction

theorem mapErrorOk {f : ε → ε'} {x : Except ε α} {value : α} :
    x.mapError f = .ok value ↔ x = .ok value := by
  cases x <;> simp [Except.mapError]

theorem mapMOk {f : α → Except ε β} {xs : List α} {ys : List β} :
    xs.mapM f = .ok ys ↔ List.Forall₂ (fun x y => f x = .ok y) xs ys := by
  induction xs generalizing ys with
  | nil => simp [pure, Except.pure, eq_comm]
  | cons x rest ih =>
    rw [List.mapM_cons, bindOk, List.forall₂_cons_left_iff]
    refine exists_congr fun y => ?_
    simp only [bindOk, ih, pure, Except.pure, Except.ok.injEq]
    constructor
    · rintro ⟨first, later, behind, rfl⟩
      exact ⟨later, first, behind, rfl⟩
    · rintro ⟨later, first, behind, rfl⟩
      exact ⟨first, later, behind, rfl⟩

theorem mapMReturns {f : α → Except ε β} {xs : List α} {ys : List β} (mapped : xs.mapM f = .ok ys)
    {x : α} (member : x ∈ xs) : ∃ y, f x = .ok y := by
  induction mapMOk.mp mapped with
  | nil => contradiction
  | @cons first y rest ys returned more ih =>
    rcases List.mem_cons.mp member with rfl | behind
    · exact ⟨y, returned⟩
    · exact ih (mapMOk.mpr more) behind

theorem mapMTotal {f : α → Except ε β} {xs : List α} :
    (∃ ys, xs.mapM f = .ok ys) ↔ ∀ x ∈ xs, ∃ y, f x = .ok y := by
  constructor
  · rintro ⟨ys, mapped⟩ x member
    exact mapMReturns mapped member
  · intro each
    induction xs with
    | nil => exact ⟨[], rfl⟩
    | cons x rest ih =>
      obtain ⟨y, first⟩ := each x List.mem_cons_self
      obtain ⟨ys, later⟩ := ih fun other member => each other (List.mem_cons_of_mem x member)
      exact ⟨y :: ys, mapMOk.mpr (.cons first (mapMOk.mp later))⟩

theorem mapMEach {f : α → Except ε β} {holds : α → β → Prop} {xs : List α} {ys : List β}
    (mapped : xs.mapM f = .ok ys) (each : ∀ x ∈ xs, ∀ y, f x = .ok y → holds x y) :
    List.Forall₂ (fun x y => f x = .ok y ∧ holds x y) xs ys := by
  induction mapMOk.mp mapped with
  | nil => exact .nil
  | @cons x y rest ys returned more ih =>
    exact .cons ⟨returned, each x List.mem_cons_self y returned⟩
      (ih (mapMOk.mpr more) fun other member => each other (List.mem_cons_of_mem x member))

theorem mapMComes {f : α → Except ε β} {xs : List α} {ys : List β} (mapped : xs.mapM f = .ok ys)
    {y : β} (member : y ∈ ys) : ∃ x ∈ xs, f x = .ok y := by
  induction mapMOk.mp mapped with
  | nil => contradiction
  | @cons x first xs rest returned more ih =>
    rcases List.mem_cons.mp member with rfl | behind
    · exact ⟨x, List.mem_cons_self, returned⟩
    · obtain ⟨other, inside, given⟩ := ih (mapMOk.mpr more) behind
      exact ⟨other, List.mem_cons_of_mem x inside, given⟩

theorem mapMMapError {f : α → Except ε β} {g : ε → ε'} (xs : List α) :
    (xs.mapM f).mapError g = xs.mapM fun x => (f x).mapError g := by
  induction xs with
  | nil => rfl
  | cons x rest ih =>
    rw [List.mapM_cons, List.mapM_cons, ← ih]
    cases f x with
    | error fault => rfl
    | ok y => cases rest.mapM f <;> rfl

theorem mapMHolds {f : α → Except ε (List β)} {xs : List α} {ys : List (List β)}
    (mapped : xs.mapM f = .ok ys) {out : β} :
    out ∈ ys.flatten ↔ ∃ x ∈ xs, ∃ y, f x = .ok y ∧ out ∈ y := by
  induction mapMOk.mp mapped with
  | nil => simp
  | @cons first y rest ys returned more ih =>
    rw [List.flatten_cons, List.mem_append, ih (mapMOk.mpr more)]
    simp [returned]

theorem mapMConsMap {γ : Type} {f : α → Except ε β} {x : α} {y : β} (first : f x = .ok y)
    (of : β → Option γ) (rest : List α) :
    ((x :: rest).mapM f).map (·.filterMap of) =
      ((rest.mapM f).map (·.filterMap of)).map ((of y).toList ++ ·) := by
  rw [List.mapM_cons, first]
  cases rest.mapM f with
  | error fault => rfl
  | ok ys => cases wanted : of y <;> simp [bind, Except.bind, pure, Except.pure, Except.map, wanted]

theorem mapMWithout {γ : Type} [DecidableEq α] {f f' : α → Except ε β} {of : β → Option γ}
    {gone : α} {xs : List α} (same : ∀ x ∈ xs, x ≠ gone → f' x = f x)
    (silent : gone ∈ xs → ∃ y, f' gone = .ok y ∧ of y = none) :
    (xs.mapM f').map (·.filterMap of) = ((xs.filter (· ≠ gone)).mapM f).map (·.filterMap of) := by
  induction xs with
  | nil => rfl
  | cons x rest ih =>
    have behind := ih (fun x member => same x (List.mem_cons_of_mem _ member))
      (fun member => silent (List.mem_cons_of_mem _ member))
    by_cases left : x = gone
    · subst left
      obtain ⟨y, returned, unwanted⟩ := silent List.mem_cons_self
      rw [mapMConsMap returned, unwanted, List.filter_cons_of_neg (by simp), ← behind]
      cases rest.mapM f' <;> rfl
    · have here := same x List.mem_cons_self left
      rw [List.filter_cons_of_pos (by simpa using left)]
      cases first : f x with
      | error fault => simp [here, first, bind, Except.bind, Except.map]
      | ok y => rw [mapMConsMap (here.trans first), mapMConsMap first, behind]

theorem forMOk {f : α → Except ε Unit} {xs : List α} (ran : xs.forM f = .ok ()) {x : α}
    (member : x ∈ xs) : f x = .ok () := by
  induction xs with
  | nil => contradiction
  | cons first rest ih =>
    obtain ⟨_, done, later⟩ := bindOk.mp (show (f first >>= fun _ => rest.forM f) = .ok () from ran)
    rcases List.mem_cons.mp member with rfl | behind
    · exact done
    · exact ih later behind

theorem forMAppend (f : α → Except ε Unit) (xs ys : List α) :
    (xs ++ ys).forM f = xs.forM f >>= fun _ => ys.forM f := List.forM_append

theorem forMTotal {f : α → Except ε Unit} {xs : List α} (each : ∀ x ∈ xs, f x = .ok ()) : xs.forM f = .ok () := by
  induction xs with
  | nil => rfl
  | cons first rest ih =>
    obtain ⟨here, behind⟩ := List.forall_mem_cons.mp each
    exact bindOk.mpr ⟨(), here, ih behind⟩

theorem forMCongr {f g : α → Except ε Unit} {xs : List α} (same : ∀ x ∈ xs, f x = g x) :
    xs.forM f = xs.forM g := by
  induction xs with
  | nil => rfl
  | cons first rest ih =>
    obtain ⟨here, behind⟩ := List.forall_mem_cons.mp same
    rw [List.forM, List.forM, here, ih behind]

theorem forMError {f : α → Except ε Unit} {xs : List α} {fault : ε} : xs.forM f = .error fault ↔
    ∃ before x behind, xs = before ++ x :: behind ∧ (∀ y ∈ before, f y = .ok ()) ∧ f x = .error fault := by
  constructor
  · intro stopped
    induction xs with
    | nil => contradiction
    | cons first rest ih =>
      have stopped : (f first >>= fun _ => rest.forM f) = .error fault := stopped
      cases here : f first with
      | error other =>
        rw [here] at stopped
        exact ⟨[], first, rest, rfl, fun _ member => absurd member List.not_mem_nil, here.trans stopped⟩
      | ok done =>
        rw [here] at stopped
        obtain ⟨before, x, behind, split, passed, stops⟩ := ih stopped
        exact ⟨first :: before, x, behind, split ▸ rfl, List.forall_mem_cons.mpr ⟨here, passed⟩, stops⟩
  · intro ⟨before, x, behind, split, passed, stops⟩
    rw [split, forMAppend, forMTotal passed]
    exact bindError.mpr (.inr ⟨(), rfl, bindError.mpr (.inl stops)⟩)

theorem forMFlatMap (f : β → Except ε Unit) (g : α → List β) (xs : List α) :
    (xs.flatMap g).forM f = xs.forM fun x => (g x).forM f := by
  induction xs with
  | nil => rfl
  | cons first rest ih =>
    rw [List.flatMap_cons, forMAppend, ih]
    rfl

theorem filterAuxMOk {p : α → Except ε Bool} {xs before ys : List α}
    (filtered : xs.filterAuxM p before = .ok ys) :
    ∃ kept, ys.reverse = before.reverse ++ kept ∧ kept.Sublist xs ∧
      ∀ x, x ∈ kept ↔ x ∈ xs ∧ p x = .ok true := by
  induction xs generalizing before with
  | nil =>
    simp only [List.filterAuxM, pure, Except.pure, Except.ok.injEq] at filtered
    exact ⟨[], by simp [filtered], .slnil, by simp⟩
  | cons x rest ih =>
    simp only [List.filterAuxM, bindOk] at filtered
    obtain ⟨keep, judged, later⟩ := filtered
    obtain ⟨kept, split, sublist, members⟩ := ih later
    cases keep with
    | false =>
      refine ⟨kept, split, sublist.cons x, fun y => ?_⟩
      rw [members, List.mem_cons]
      constructor
      · exact fun ⟨behind, judged⟩ => ⟨.inr behind, judged⟩
      · rintro ⟨rfl | behind, kept⟩
        · simp [judged] at kept
        · exact ⟨behind, kept⟩
    | true =>
      refine ⟨x :: kept, by simp [split], sublist.cons_cons x, fun y => ?_⟩
      rw [List.mem_cons, members, List.mem_cons]
      constructor
      · rintro (rfl | ⟨behind, kept⟩)
        · exact ⟨.inl rfl, judged⟩
        · exact ⟨.inr behind, kept⟩
      · rintro ⟨rfl | behind, kept⟩
        · exact .inl rfl
        · exact .inr ⟨behind, kept⟩

theorem filterMOk {p : α → Except ε Bool} {xs ys : List α} (filtered : xs.filterM p = .ok ys) :
    ys.Sublist xs ∧ ∀ x, x ∈ ys ↔ x ∈ xs ∧ p x = .ok true := by
  simp only [List.filterM, bindOk, pure, Except.pure, Except.ok.injEq] at filtered
  obtain ⟨reversed, filtered, rfl⟩ := filtered
  obtain ⟨kept, split, sublist, members⟩ := filterAuxMOk filtered
  rw [split]
  exact ⟨sublist, members⟩

theorem filterMMapError {p : α → Except ε Bool} {g : ε → ε'} (xs : List α) :
    (xs.filterM p).mapError g = xs.filterM fun x => (p x).mapError g := by
  have judged (before : List α) : (xs.filterAuxM p before).mapError g =
      xs.filterAuxM (fun x => (p x).mapError g) before := by
    induction xs generalizing before with
    | nil => rfl
    | cons x rest ih =>
      rw [List.filterAuxM, List.filterAuxM]
      cases p x with
      | error fault => rfl
      | ok keep => exact ih (cond keep (x :: before) before)
  rw [List.filterM, List.filterM, ← judged []]
  cases xs.filterAuxM p [] <;> rfl

theorem filterMTotal {p : α → Except ε Bool} {xs : List α} :
    (∃ ys, xs.filterM p = .ok ys) ↔ ∀ x ∈ xs, ∃ keep, p x = .ok keep := by
  have judged (before : List α) :
      (∃ ys, xs.filterAuxM p before = .ok ys) ↔ ∀ x ∈ xs, ∃ keep, p x = .ok keep := by
    induction xs generalizing before with
    | nil => simp [List.filterAuxM, pure, Except.pure]
    | cons x rest ih =>
      simp only [List.filterAuxM, bindOk, List.forall_mem_cons]
      constructor
      · rintro ⟨ys, keep, here, later⟩
        exact ⟨⟨keep, here⟩, (ih _).mp ⟨ys, later⟩⟩
      · rintro ⟨⟨keep, here⟩, behind⟩
        obtain ⟨ys, later⟩ := (ih (cond keep (x :: before) before)).mpr behind
        exact ⟨ys, keep, here, later⟩
  rw [← judged []]
  simp only [List.filterM, bindOk, pure, Except.pure, Except.ok.injEq]
  constructor
  · rintro ⟨ys, kept, filtered, -⟩
    exact ⟨kept, filtered⟩
  · rintro ⟨kept, filtered⟩
    exact ⟨kept.reverse, kept, filtered, rfl⟩

end
end IndentLint
