import IndentLint.Proofs.Document.Literals
import IndentLint.Proofs.Document.Merging

/-! Documents in JSON. A document of texts, truth values, showable whole numbers, lists and mappings by text
is read back from what is written for it, in either layout and with either set of characters. -/
namespace IndentLint.Document
namespace Json

inductive Stored : Nat → Value → Prop where
  | null {room : Nat} : Stored room .null
  | bool {room : Nat} (b : Bool) : Stored room (.bool b)
  | int {room : Nat} {n : Int} (showable : Text.Numeral.isShowable n = true) : Stored room (.int n)
  | text {room : Nat} (s : String) : Stored room (.text s)
  | list {room : Nat} {items : List Value} (inside : ∀ v ∈ items, Stored room v) : Stored (room + 1) (.list items)
  | record {room : Nat} {fields : List (String × Value)} (distinct : (fields.map Prod.fst).Nodup)
      (inside : ∀ f ∈ fields, Stored room f.2) : Stored (room + 1) (.record fields)

def texted (fields : List (String × Value)) : Entries := fields.map fun f => (.text f.1, f.2)

theorem textedDistinct {fields : List (String × Value)} (distinct : (fields.map Prod.fst).Nodup) :
    (Entries.keys (texted fields)).Nodup := by
  have keys : Entries.keys (texted fields) = (fields.map Prod.fst).map fun name => (Scalar.text name).key := by
    simp [Entries.keys, texted]
  rw [keys]
  exact distinct.map fun _ _ same => Scalar.text.inj (keyText.mp same)

@[simp] theorem textedNil : texted [] = [] := rfl

@[simp] theorem textedCons (k : String) (v : Value) (rest : List (String × Value)) :
    texted ((k, v) :: rest) = (.text k, v) :: texted rest := rfl

variable {charset : Charset} {layout : Layout}

/-! ### What stands between values -/

theorem skipVisible {c : Char} (visible : isSpace c = false) (s : List Char) : skip (c :: s) = c :: s := by
  simp [skip, visible]

theorem skipBreak (layout : Layout) (level : Nat) {c : Char} (visible : isSpace c = false) (s : List Char) :
    skip (lineBreak layout level ++ c :: s) = c :: s := by
  cases layout with
  | compact => exact skipVisible visible s
  | indented =>
    have spaces (n : Nat) : skip (List.replicate n ' ' ++ c :: s) = c :: s := by
      induction n with
      | zero => exact skipVisible visible s
      | succ n ih => exact ih
    exact spaces (2 * level)

theorem endsBreak (layout : Layout) (level : Nat) {c : Char}
    (other : c.isDigit = false ∧ c ≠ '.' ∧ c ≠ 'e' ∧ c ≠ 'E') (s : List Char) :
    Ends (lineBreak layout level ++ c :: s) := by
  cases layout with
  | compact => exact endsCons other s
  | indented => exact endsCons (by decide) _

theorem numeralHead (n : Int) : ∃ c more, Text.Numeral.write n = c :: more ∧
    (c.isDigit = true ∨ c = '-') := by
  cases n with
  | ofNat n =>
    obtain ⟨d, more, shape, -⟩ := digitsHead n
    exact ⟨d, more, shape, .inl (digitsAll n d (by simp [shape]))⟩
  | negSucc n => exact ⟨'-', _, rfl, .inr rfl⟩

theorem numeralOther {c d : Char} (numeral : c.isDigit = true ∨ c = '-')
    (other : d.isDigit = false ∧ d ≠ '-') : c ≠ d := by
  rintro rfl
  simp [other] at numeral

theorem writtenHead {room : Nat} {v : Value} (stored : Stored room v) (charset : Charset) (layout : Layout)
    (level : Nat) : ∃ c more, writeAt charset layout level v = c :: more ∧ isSpace c = false ∧ c ≠ ']' ∧ c ≠ '}' := by
  cases stored with
  | null => exact ⟨_, _, rfl, by decide, by decide, by decide⟩
  | bool b => cases b <;> exact ⟨_, _, rfl, by decide, by decide, by decide⟩
  | @int _ n showable =>
    obtain ⟨c, more, shape, numeral⟩ := numeralHead n
    have other {d : Char} := numeralOther (d := d) numeral
    exact ⟨c, more, shape, by simp [isSpace, other], other (by decide), other (by decide)⟩
  | text s => exact ⟨_, _, rfl, by decide, by decide, by decide⟩
  | @list _ items inside => cases items <;> exact ⟨_, _, rfl, by decide, by decide, by decide⟩
  | @record _ fields distinct inside => cases fields <;> exact ⟨_, _, rfl, by decide, by decide, by decide⟩

theorem writtenSome {room : Nat} {v : Value} (stored : Stored room v) (charset : Charset) (layout : Layout)
    (level : Nat) : 0 < (writeAt charset layout level v).length := by
  obtain ⟨c, more, shape, -⟩ := writtenHead stored charset layout level
  rw [shape]
  exact Nat.succ_pos _

theorem skipWritten {room : Nat} {v : Value} (stored : Stored room v) (charset : Charset) (layout : Layout)
    (level : Nat) (between : Layout) (s : List Char) :
    skip (lineBreak between level ++ (writeAt charset layout level v ++ s)) =
      writeAt charset layout level v ++ s := by
  obtain ⟨c, more, shape, visible, -⟩ := writtenHead stored charset layout level
  rw [shape, List.cons_append]
  exact skipBreak between level visible _

/-! ### Values -/

def ReadsBack (charset : Charset) (layout : Layout) (room : Nat) (v : Value) : Prop :=
  ∀ (level fuel : Nat) (rest : List Char), 2 * (writeAt charset layout level v).length ≤ fuel + 1 → Ends rest →
    value fuel room (writeAt charset layout level v ++ rest) = .ok (v, rest)

theorem valuePlain {c : Char} (other : c ≠ '"' ∧ c ≠ '[' ∧ c ≠ '{') {fuel room : Nat} {more rest : List Char}
    {v : Scalar} (read : plain (c :: more) = .ok (v, rest)) :
    value (fuel + 1) room (c :: more) = .ok (.scalar v, rest) := by
  rw [value.eq_7 room (c :: more) fuel (by simp [other]) (by simp [other]) (by simp [other]) (by simp [other])
    (by simp [other]), read]
  rfl

section
variable {room fuel level : Nat} {v : Value} {s tail rest : List Char}

theorem itemsLast (read : value fuel room s = .ok (v, tail)) (closed : skip tail = ']' :: rest) :
    items (fuel + 1) room s = .ok ([v], rest) := by
  rw [items, read]
  simp only [bind, Except.bind, closed]

theorem itemsNext {vs : List Value} {later : List Char} (read : value fuel room s = .ok (v, tail))
    (comma : skip tail = ',' :: later) (behind : items fuel room (skip later) = .ok (vs, rest)) :
    items (fuel + 1) room s = .ok (v :: vs, rest) := by
  rw [items, read]
  simp only [bind, Except.bind, comma, behind]

theorem itemsBack (level fuel : Nat) (rest : List Char) {vs : List Value} (stored : ∀ w ∈ v :: vs, Stored room w)
    (each : ∀ w ∈ v :: vs, ReadsBack charset layout room w)
    (enough : 2 * (writeAt charset layout (level + 1) v).length +
      2 * (writeItems charset layout (level + 1) vs).length ≤ fuel) :
    items fuel room (writeAt charset layout (level + 1) v ++ (writeItems charset layout (level + 1) vs ++
      (lineBreak layout level ++ ']' :: rest))) = .ok (v :: vs, rest) := by
  induction vs generalizing v fuel with
  | nil =>
    have some := writtenSome (stored v List.mem_cons_self) charset layout (level + 1)
    obtain ⟨fuel, rfl⟩ := Nat.exists_eq_add_one.mpr (show 0 < fuel by omega)
    have read := each v List.mem_cons_self (level + 1) fuel (lineBreak layout level ++ ']' :: rest) (by omega)
      (endsBreak layout level (by decide) _)
    exact itemsLast read (skipBreak layout level (by decide) rest)
  | cons w more ih =>
    obtain ⟨first, stored⟩ := List.forall_mem_cons.mp stored
    obtain ⟨here, each⟩ := List.forall_mem_cons.mp each
    have some := writtenSome first charset layout (level + 1)
    obtain ⟨fuel, rfl⟩ := Nat.exists_eq_add_one.mpr (show 0 < fuel by omega)
    have next : writeItems charset layout (level + 1) (w :: more) ++ (lineBreak layout level ++ ']' :: rest) =
        ',' :: (lineBreak layout (level + 1) ++ (writeAt charset layout (level + 1) w ++
          (writeItems charset layout (level + 1) more ++ (lineBreak layout level ++ ']' :: rest)))) := by
      simp [writeItems]
    have length : (writeItems charset layout (level + 1) (w :: more)).length =
        1 + (lineBreak layout (level + 1)).length + (writeAt charset layout (level + 1) w).length +
          (writeItems charset layout (level + 1) more).length := by
      simp [writeItems]
      omega
    rw [next]
    refine itemsNext (here (level + 1) fuel _ (by omega) (endsCons (by decide) _)) (skipVisible (by decide) _) ?_
    rw [skipWritten (stored w List.mem_cons_self)]
    exact ih fuel stored each (by omega)

theorem keyQuoted (k : String) (tail : List Char) :
    key charset (.text k) ++ tail = '"' :: (k.toList.flatMap (escape charset) ++ '"' :: tail) := by
  simp [key, scalar, string]

theorem skipBlank (stored : Stored room v) (s : List Char) :
    skip (' ' :: (writeAt charset layout level v ++ s)) = writeAt charset layout level v ++ s :=
  skipWritten stored charset layout level .compact s

theorem entriesLast (k : String) (stored : Stored room v)
    (read : value fuel room (writeAt charset layout level v ++ tail) = .ok (v, tail))
    (closed : skip tail = '}' :: rest) :
    entries (fuel + 1) room (key charset (.text k) ++ ':' :: ' ' :: (writeAt charset layout level v ++ tail)) =
      .ok ([(.text k, v)], rest) := by
  rw [keyQuoted, entries, stringBack]
  simp only [bind, Except.bind, skipVisible (show isSpace ':' = false by decide), skipBlank stored, read, closed,
    String.ofList_toList]

theorem entriesNext (k : String) {es : Entries} {later : List Char} (stored : Stored room v)
    (read : value fuel room (writeAt charset layout level v ++ tail) = .ok (v, tail))
    (comma : skip tail = ',' :: later) (behind : entries fuel room (skip later) = .ok (es, rest)) :
    entries (fuel + 1) room (key charset (.text k) ++ ':' :: ' ' :: (writeAt charset layout level v ++ tail)) =
      .ok ((.text k, v) :: es, rest) := by
  rw [keyQuoted, entries, stringBack]
  simp only [bind, Except.bind, skipVisible (show isSpace ':' = false by decide), skipBlank stored, read, comma, behind,
    String.ofList_toList]

theorem entriesBack (level fuel : Nat) (rest : List Char) {k : String} {fields : List (String × Value)}
    (stored : ∀ f ∈ (k, v) :: fields, Stored room f.2)
    (each : ∀ f ∈ (k, v) :: fields, ReadsBack charset layout room f.2)
    (enough : 2 * (writeAt charset layout (level + 1) v).length +
      2 * (writeEntries charset layout (level + 1) (texted fields)).length ≤ fuel) :
    entries fuel room (key charset (.text k) ++ ':' :: ' ' :: (writeAt charset layout (level + 1) v ++
      (writeEntries charset layout (level + 1) (texted fields) ++ (lineBreak layout level ++ '}' :: rest)))) =
      .ok (texted ((k, v) :: fields), rest) := by
  have first : Stored room v := stored _ List.mem_cons_self
  have here : ReadsBack charset layout room v := each _ List.mem_cons_self
  have some := writtenSome first charset layout (level + 1)
  induction fields generalizing k v fuel with
  | nil =>
    obtain ⟨fuel, rfl⟩ := Nat.exists_eq_add_one.mpr (show 0 < fuel by omega)
    have read := here (level + 1) fuel (lineBreak layout level ++ '}' :: rest) (by omega)
      (endsBreak layout level (by decide) _)
    exact entriesLast k first read (skipBreak layout level (by decide) rest)
  | cons f more ih =>
    obtain ⟨fuel, rfl⟩ := Nat.exists_eq_add_one.mpr (show 0 < fuel by omega)
    obtain ⟨k', w⟩ := f
    obtain ⟨-, stored⟩ := List.forall_mem_cons.mp stored
    obtain ⟨-, each⟩ := List.forall_mem_cons.mp each
    have next : writeEntries charset layout (level + 1) (texted ((k', w) :: more)) ++
        (lineBreak layout level ++ '}' :: rest) =
        ',' :: (lineBreak layout (level + 1) ++ (key charset (.text k') ++ ':' :: ' ' ::
          (writeAt charset layout (level + 1) w ++ (writeEntries charset layout (level + 1) (texted more) ++
            (lineBreak layout level ++ '}' :: rest))))) := by
      simp [writeEntries]
    have length : (writeEntries charset layout (level + 1) (texted ((k', w) :: more))).length =
        1 + (lineBreak layout (level + 1)).length + (key charset (.text k')).length + 2 +
          (writeAt charset layout (level + 1) w).length +
          (writeEntries charset layout (level + 1) (texted more)).length := by
      simp [writeEntries]
      omega
    have behind := ih fuel stored each (by omega) (stored _ List.mem_cons_self)
      (each _ List.mem_cons_self) (writtenSome (stored _ List.mem_cons_self) charset layout (level + 1))
    rw [next]
    refine entriesNext k first (here (level + 1) fuel _ (by omega) (endsCons (by decide) _))
      (skipVisible (by decide) _) ?_
    rw [keyQuoted] at behind ⊢
    rw [skipBreak layout (level + 1) (by decide)]
    exact behind

theorem readsBackOf (stored : Stored room v) (reads : ∀ (level fuel : Nat) (rest : List Char),
    2 * (writeAt charset layout level v).length ≤ fuel + 2 → Ends rest →
    value (fuel + 1) room (writeAt charset layout level v ++ rest) = .ok (v, rest)) :
    ReadsBack charset layout room v := by
  intro level fuel rest enough ends
  have some := writtenSome stored charset layout level
  obtain ⟨fuel, rfl⟩ := Nat.exists_eq_add_one.mpr (show 0 < fuel by omega)
  exact reads level fuel rest enough ends

end

theorem storedReads {room : Nat} {v : Value} (stored : Stored room v) : ReadsBack charset layout room v := by
  induction stored with
  | null => exact readsBackOf .null fun level fuel rest enough ends => valuePlain (by decide) rfl
  | bool b =>
    refine readsBackOf (.bool b) fun level fuel rest enough ends => ?_
    cases b <;> exact valuePlain (by decide) rfl
  | @int room n showable =>
    refine readsBackOf (.int showable) fun level fuel rest enough ends => ?_
    obtain ⟨c, more, shape, numeral⟩ := numeralHead n
    have other {d : Char} := numeralOther (d := d) numeral
    have read := plainInt showable ends
    rw [shape, List.cons_append] at read
    rw [show writeAt charset layout level (.int n) = c :: more from shape, List.cons_append]
    exact valuePlain ⟨other (by decide), other (by decide), other (by decide)⟩ read
  | text s =>
    refine readsBackOf (.text s) fun level fuel rest enough ends => ?_
    have written : writeAt charset layout level (.text s) ++ rest =
        '"' :: (s.toList.flatMap (escape charset) ++ '"' :: rest) := by
      simp [writeAt, scalar, string]
    rw [written, value.eq_2, stringBack]
    simp [bind, Except.bind]
  | @list room items inside ih =>
    refine readsBackOf (.list inside) fun level fuel rest enough ends => ?_
    cases items with
    | nil => rfl
    | cons v vs =>
      obtain ⟨c, more, shape, visible, opens, -⟩ :=
        writtenHead (inside v List.mem_cons_self) charset layout (level + 1)
      have written : writeAt charset layout level (.list (v :: vs)) ++ rest =
          '[' :: (lineBreak layout (level + 1) ++ (writeAt charset layout (level + 1) v ++
            (writeItems charset layout (level + 1) vs ++ (lineBreak layout level ++ ']' :: rest)))) := by
        simp [writeAt]
      have behind := itemsBack level fuel rest inside ih (by
        simp [writeAt] at enough
        omega)
      rw [written, value.eq_4, skipWritten (inside v List.mem_cons_self)]
      rw [shape, List.cons_append] at behind ⊢
      split
      · rename_i same
        exact absurd (List.cons.inj same).1 opens
      · rw [behind]
        rfl
  | @record room fields distinct inside ih =>
    refine readsBackOf (.record distinct inside) fun level fuel rest enough ends => ?_
    cases fields with
    | nil => rfl
    | cons f more =>
      obtain ⟨k, v⟩ := f
      have shape : Value.record ((k, v) :: more) = .mapping ((.text k, v) :: texted more) := rfl
      rw [shape] at enough ⊢
      have written : writeAt charset layout level (.mapping ((.text k, v) :: texted more)) ++ rest =
          '{' :: (lineBreak layout (level + 1) ++ (key charset (.text k) ++ ':' :: ' ' ::
            (writeAt charset layout (level + 1) v ++ (writeEntries charset layout (level + 1) (texted more) ++
              (lineBreak layout level ++ '}' :: rest))))) := by
        simp [writeAt]
      have behind := entriesBack level fuel rest inside ih (by
        simp [writeAt] at enough
        omega)
      have whole := Entries.ofListDistinct (textedDistinct distinct)
      rw [written, value.eq_6]
      rw [keyQuoted] at behind ⊢
      rw [skipBreak layout (level + 1) (by decide)]
      split
      · rename_i same
        exact absurd (List.cons.inj same).1 (by decide)
      · rw [behind]
        exact congrArg (fun entries => Except.ok (Value.mapping entries, rest)) whole

theorem readWritten {depth : Nat} {v : Value} (stored : Stored depth v) :
    read (writeAt charset layout 0 v) depth = .ok v := by
  have nothing : Ends [] := fun c more same => nomatch same
  have back : ReadsBack charset layout depth v := storedReads stored
  have inner := back 0 (2 * (writeAt charset layout 0 v).length + 2) [] (by omega) nothing
  have start := skipWritten stored charset layout 0 .compact []
  rw [List.append_nil] at inner start
  rw [read, show skip (writeAt charset layout 0 v) = writeAt charset layout 0 v from start, inner]
  rfl

/-! ### Numbers that can be shown -/

theorem recordShowable (fields : List (String × Value)) :
    (Value.record fields).isShowable = fields.all fun f => f.2.isShowable := by
  have entries (fields : List (String × Value)) :
      entriesShowable (texted fields) = fields.all fun f => f.2.isShowable := by
    induction fields with
    | nil => rw [textedNil, entriesShowable, List.all_nil]
    | cons f rest ih =>
      obtain ⟨k, v⟩ := f
      rw [textedCons, entriesShowable, ih, List.all_cons]
      rfl
  rw [show Value.record fields = .mapping (texted fields) from rfl, Value.isShowable, entries]

theorem storedShowable {room : Nat} {v : Value} (stored : Stored room v) : v.isShowable = true := by
  induction stored with
  | null | bool _ | text _ => rfl
  | int showable => exact showable
  | @list room items inside ih =>
    rw [Value.isShowable]
    induction items with
    | nil => rw [itemsShowable]
    | cons v rest both =>
      obtain ⟨here, each⟩ := List.forall_mem_cons.mp ih
      rw [itemsShowable, here, Bool.true_and]
      exact both (fun w member => inside w (List.mem_cons_of_mem _ member)) each
  | record distinct inside ih =>
    rw [recordShowable]
    exact List.all_eq_true.mpr ih

end Json
end IndentLint.Document
