import Mathlib.Data.List.TakeWhile
import WindowSql.Json.Reader
import WindowSql.Proofs.LongIntegers
import WindowSql.Proofs.Promotion
import WindowSql.Proofs.StatementDocuments

/-!
# Limits of documents

A text is read within the limits of digits and of nesting, and what is read can be written again:

* `read_ones`, `read_brackets`: an integer of more digits is refused, and so is an array inside as
  many as may be open;
* `Json.integers`, `Json.integers_of_read`: no integer in a value that is read is too long;
* `Schema.integers_of_expr`, `Schema.integers_of_statement`: the integers of a statement are those
  of its document;
* `Statement.admitted_of_read`: so every constant of a statement that is read from a text has a
  text.
-/

namespace WindowSql

namespace Expr

/-- The expressions that an expression is put together from. -/
def parts : Expr → List Expr
  | column _ | literal _ => []
  | call func args orderBy => args ++ (Call.mk func args orderBy).keys
  | binary _ a b => [a, b]
  | desc e => [e]

theorem sizeOf_lt_of_mem_parts {e part : Expr} (h : part ∈ e.parts) : sizeOf part < sizeOf e := by
  cases e with
  | column | literal => cases h
  | call func args orderBy =>
    rcases List.mem_append.mp h with argument | key
    · have smaller := List.sizeOf_lt_of_mem argument
      simp only [call.sizeOf_spec]
      omega
    · cases orderBy with
      | none => cases key
      | some keys =>
        have smaller := List.sizeOf_lt_of_mem (show part ∈ keys from key)
        simp only [call.sizeOf_spec, Option.some.sizeOf_spec]
        omega
  | binary op a b =>
    rcases List.mem_cons.mp h with rfl | h
    · simp only [binary.sizeOf_spec]
      omega
    · obtain rfl := List.mem_singleton.mp h
      simp only [binary.sizeOf_spec]
      omega
  | desc e =>
    obtain rfl := List.mem_singleton.mp h
    simp only [desc.sizeOf_spec]
    omega

end Expr

namespace Json

mutual

/-- The integers that stand in a value. -/
def integers : Json → List Int
  | int i => [i]
  | arr items => integersAll items
  | obj fields => integersIn fields
  | _ => []

def integersAll : List Json → List Int
  | [] => []
  | j :: rest => integers j ++ integersAll rest

def integersIn : List (String × Json) → List Int
  | [] => []
  | (_, j) :: rest => integers j ++ integersIn rest

end

theorem mem_integersAll {i : Int} {js : List Json} :
    i ∈ integersAll js ↔ ∃ j ∈ js, i ∈ j.integers := by
  induction js with
  | nil => simp [integersAll]
  | cons j rest ih => simp [integersAll, ih]

theorem mem_integersIn {i : Int} {fields : List (String × Json)} :
    i ∈ integersIn fields ↔ ∃ field ∈ fields, i ∈ field.2.integers := by
  induction fields with
  | nil => simp [integersIn]
  | cons field rest ih => simp [integersIn, ih]

theorem mem_integersIn_put {i : Int} {fields : List (String × Json)} {name : String} {j : Json}
    (h : i ∈ integersIn (put fields name j)) : i ∈ integersIn fields ∨ i ∈ j.integers := by
  induction fields with
  | nil => exact .inr (by simpa [put, integersIn] using h)
  | cons field rest ih =>
    obtain ⟨n, v⟩ := field
    rw [put] at h
    rw [integersIn, List.mem_append]
    split at h
    · rcases List.mem_append.mp h with new | later
      · exact .inr new
      · exact .inl (.inr later)
    · rcases List.mem_append.mp h with old | later
      · exact .inl (.inl old)
      · exact (ih later).imp_left .inr

/-- So many digits make less than so high a power of ten. -/
theorem digitsValue_lt {digits : List Char} (all : ∀ c ∈ digits, c.isDigit = true) :
    digitsValue digits < 10 ^ digits.length := by
  have run (n : Nat) : digits.foldl (fun n c => 10 * n + (c.toNat - '0'.toNat)) n <
      (n + 1) * 10 ^ digits.length := by
    induction digits generalizing n with
    | nil => simp
    | cons c rest ih =>
      obtain ⟨first, others⟩ := List.forall_mem_cons.mp all
      have value : c.toNat - '0'.toNat ≤ 9 := by
        simp only [Char.isDigit, ge_iff_le, Bool.and_eq_true, decide_eq_true_eq,
          UInt32.le_iff_toNat_le] at first
        change c.val.toNat - 48 ≤ 9
        have most : c.val.toNat ≤ 57 := first.2
        omega
      refine Nat.lt_of_lt_of_le (ih others _) ?_
      rw [List.length_cons, Nat.pow_succ']
      rw [← Nat.mul_assoc]
      refine Nat.mul_le_mul_right _ ?_
      dsimp only
      omega
  simpa [digitsValue] using run 0

theorem isDigit_of_mem_wholePart {cs : List Char} {c : Char} (h : c ∈ (wholePart cs).1) :
    c.isDigit = true := by
  unfold wholePart at h
  split at h
  · obtain rfl := List.mem_singleton.mp h
    rfl
  · exact List.mem_takeWhile_imp h

theorem isDigit_of_mem_whole {cs : List Char} {c : Char} (h : c ∈ (numberParts cs).whole) :
    c.isDigit = true := isDigit_of_mem_wholePart h

variable {l : Limits}

theorem integers_of_value? {p : NumberParts} {j : Json} (h : p.value? l = .ok j)
    (digits : ∀ c ∈ p.whole, c.isDigit = true) : ∀ i ∈ j.integers, l.Admits i := by
  unfold NumberParts.value? at h
  split at h
  · split at h
    · cases h
    · rename_i fits
      cases h
      intro i hi most limit
      obtain rfl := List.mem_singleton.mp hi
      have few := l.exceeded?_eq_none_iff.mp fits most limit
      refine Nat.lt_of_lt_of_le ?_ (Nat.pow_le_pow_right (by decide) few)
      have value := digitsValue_lt digits
      split <;> simpa using value
  · cases h
    exact fun i hi => (List.not_mem_nil hi).elim

theorem integers_of_readNumber {cs : List Char} {j : Json} {rest : List Char}
    {shorter : rest.length < cs.length} (h : readNumber l cs = .ok ⟨(j, rest), shorter⟩) :
    ∀ i ∈ j.integers, l.Admits i := by
  unfold readNumber at h
  dsimp only at h
  split at h
  · cases h
  · split at h
    · cases h
    · rename_i value
      split at h
      · cases h
        exact integers_of_value? value fun _ => isDigit_of_mem_whole
      · cases h

theorem integers_of_readScalar {cs : List Char} {j : Json} {rest : List Char}
    {shorter : rest.length < cs.length} (h : readScalar l cs = .ok ⟨(j, rest), shorter⟩) :
    ∀ i ∈ j.integers, l.Admits i := by
  unfold readScalar at h
  split at h
  all_goals first
    | exact integers_of_readNumber h
    | cases h
      exact fun i hi => (List.not_mem_nil hi).elim

/-! ## What is refused -/

theorem readScalar_digit {c : Char} (digit : c.isDigit = true) (rest : List Char) :
    readScalar l (c :: rest) = readNumber l (c :: rest) := by
  rw [readScalar]
  all_goals
    intro rest same
    cases same
    cases digit

theorem readValue_digit {c : Char} (digit : c.isDigit = true) (nesting : Nat)
    (rest : List Char) : readValue l nesting (c :: rest) = readNumber l (c :: rest) := by
  rw [readValue, readScalar_digit digit]
  all_goals
    rintro rfl
    cases digit

theorem numberParts_digits {c : Char} {rest : List Char} (digit : c.isDigit = true)
    (first : c ≠ '0') (all : ∀ d ∈ rest, d.isDigit = true) :
    numberParts (c :: rest) = ⟨false, c :: rest, none, none, []⟩ := by
  have unsigned : c ≠ '-' := by
    rintro rfl
    cases digit
  have whole : wholePart (c :: rest) = (c :: rest, []) := by
    rw [wholePart]
    · rw [List.takeWhile_cons_of_pos digit, List.dropWhile_cons_of_pos digit,
        List.takeWhile_eq_self_iff.mpr all, List.dropWhile_eq_nil_iff.mpr all]
    · rintro rest same
      cases same
      exact first rfl
  unfold numberParts
  split
  rename_i negative body same
  split at same
  · rename_i again
    cases again
    exact absurd rfl unsigned
  · cases same
    simp only [whole]
    rfl

/-- A text that begins with a value that is refused is refused for it. -/
theorem read_eq_error {c : Char} {rest : List Char} {f : Failure} (visible : isSpace c = false)
    (unmarked : c ≠ '\ufeff')
    (h : readValue l l.nesting (c :: rest) = .error f) :
    read l (String.ofList (c :: rest)) =
      .error ⟨f.flaw, (c :: rest).length - f.remaining⟩ := by
  have start : skip (c :: rest) = c :: rest := by
    rw [skip, List.dropWhile_cons_of_neg (by simp [visible])]
  have value (cs : List Char) (same : cs = c :: rest) : readValue l l.nesting cs = .error f :=
    same ▸ h
  have chars : readChars l (c :: rest) = .error f := by
    rw [readChars, if_neg (by simpa using unmarked), value _ start]
    rfl
  rw [read, String.toList_ofList, chars]

/-- An integer of more digits than are allowed is refused for their number. -/
theorem read_ones {n most : Nat} (limit : l.digits = some most) (long : most < n) :
    read l (String.ofList (List.replicate n '1')) = .error ⟨.integerTooLong most n, 0⟩ := by
  cases n with
  | zero => cases long
  | succ n =>
    have digits : ∀ d ∈ List.replicate n '1', d.isDigit = true := by
      intro d hd
      rw [List.eq_of_mem_replicate hd]
      rfl
    have parts := numberParts_digits (c := '1') rfl (by decide) digits
    have length : ('1' :: List.replicate n '1').length = n + 1 := by simp
    have beyond : l.exceeded? (n + 1) = some most := by
      rw [Limits.exceeded?, limit, Option.filter_some, if_pos (decide_eq_true long)]
    have number : readNumber l ('1' :: List.replicate n '1') =
        .error ⟨.integerTooLong most (n + 1), ('1' :: List.replicate n '1').length⟩ := by
      unfold readNumber
      rw [parts]
      simp only [NumberParts.value?, length, beyond]
      rfl
    have refused := readValue_digit (l := l) (c := '1') rfl l.nesting (List.replicate n '1')
    rw [List.replicate_succ, read_eq_error rfl (by decide) (refused.trans number)]
    simp

theorem readValue_brackets (nesting more : Nat) :
    readValue l nesting (List.replicate (nesting + more + 1) '[') =
      .error ⟨.nestedTooDeep "array", more + 1⟩ := by
  induction nesting with
  | zero =>
    rw [List.replicate_succ, readValue]
    simp
  | succ nesting ih =>
    rw [Nat.succ_add]
    have visible : skip (List.replicate (nesting + more + 1) '[') =
        List.replicate (nesting + more + 1) '[' := by
      rw [skip, List.replicate_succ, List.dropWhile_cons_of_neg (by decide)]
    have opened : past? ']' (List.replicate (nesting + more + 1) '[') = none := by
      unfold past?
      split
      · rename_i d rest shown
        rw [visible, List.replicate_succ] at shown
        obtain ⟨rfl, -⟩ := List.cons.inj shown
        rfl
      · rfl
    have items (cs : List Char) (same : cs = List.replicate (nesting + more + 1) '[') :
        readElements l nesting cs = .error ⟨.nestedTooDeep "array", more + 1⟩ := by
      subst same
      rw [readElements, ih]
      rfl
    rw [List.replicate_succ, readValue]
    simp only [opened]
    rw [items _ visible]
    rfl

/-- An array is refused that is opened inside as many as may be open. -/
theorem read_brackets {n : Nat} (deep : l.nesting < n) :
    read l (String.ofList (List.replicate n '[')) =
      .error ⟨.nestedTooDeep "array", l.nesting⟩ := by
  obtain ⟨more, rfl⟩ := Nat.exists_eq_add_of_lt deep
  have refused := readValue_brackets (l := l) l.nesting more
  rw [List.replicate_succ] at refused ⊢
  rw [read_eq_error rfl (by decide) refused]
  simp

/-- From texts that are shorter than this, no integer is read that is too long. -/
structure AdmittedBelow (l : Limits) (length : Nat) : Prop where
  value {nesting : Nat} {cs : List Char} {j : Json} {rest : List Char}
    {shorter : rest.length < cs.length} (short : cs.length < length)
    (h : readValue l nesting cs = .ok ⟨(j, rest), shorter⟩) : ∀ i ∈ j.integers, l.Admits i
  elements {nesting : Nat} {cs : List Char} {items : List Json} {rest : List Char}
    {shorter : rest.length < cs.length} (short : cs.length < length)
    (h : readElements l nesting cs = .ok ⟨(items, rest), shorter⟩) :
    ∀ i ∈ integersAll items, l.Admits i
  members {nesting : Nat} {before : List (String × Json)} {cs : List Char}
    {fields : List (String × Json)} {rest : List Char} {shorter : rest.length < cs.length}
    (short : cs.length < length) (admitted : ∀ i ∈ integersIn before, l.Admits i)
    (h : readMembers l nesting before cs = .ok ⟨(fields, rest), shorter⟩) :
    ∀ i ∈ integersIn fields, l.Admits i

namespace AdmittedBelow
variable {length nesting : Nat} {cs rest : List Char} {shorter : rest.length < cs.length}

theorem value_succ (below : AdmittedBelow l length) (short : cs.length < length + 1) {j : Json}
    (h : readValue l nesting cs = .ok ⟨(j, rest), shorter⟩) : ∀ i ∈ j.integers, l.Admits i := by
  unfold readValue at h
  split at h
  · cases h
  · obtain ⟨_, -, given⟩ := bind_eq_ok.mp h
    cases given
    exact fun i hi => (List.not_mem_nil hi).elim
  · rename_i inner
    split at h
    · cases h
    · split at h
      · cases h
        exact fun i hi => (List.not_mem_nil hi).elim
      · obtain ⟨⟨⟨fields, after⟩, _⟩, run, given⟩ := bind_eq_ok.mp h
        cases given
        have inside := length_skip_le inner
        rw [List.length_cons] at short
        exact below.members (by omega) (List.forall_mem_nil _) run
  · rename_i inner
    split at h
    · cases h
    · split at h
      · cases h
        exact fun i hi => (List.not_mem_nil hi).elim
      · obtain ⟨⟨⟨items, after⟩, _⟩, run, given⟩ := bind_eq_ok.mp h
        cases given
        have inside := length_skip_le inner
        rw [List.length_cons] at short
        exact below.elements (by omega) run
  · exact integers_of_readScalar h

theorem elements_succ (below : AdmittedBelow l length) (short : cs.length < length + 1)
    {items : List Json} (h : readElements l nesting cs = .ok ⟨(items, rest), shorter⟩) :
    ∀ i ∈ integersAll items, l.Admits i := by
  rw [readElements] at h
  obtain ⟨⟨⟨item, after⟩, shorter'⟩, first, given⟩ := bind_eq_ok.mp h
  have admitted := below.value_succ short first
  dsimp only at given
  split at given
  · cases given
    simpa [integersAll] using admitted
  · split at given
    · rename_i next nextShorter _
      obtain ⟨⟨⟨others, left⟩, _⟩, run, given⟩ := bind_eq_ok.mp given
      cases given
      have later := length_skip_le next
      dsimp only at shorter'
      exact List.forall_mem_append.mpr ⟨admitted, below.elements (by omega) run⟩
    · cases given

theorem members_succ (below : AdmittedBelow l length) (short : cs.length < length + 1)
    {before fields : List (String × Json)} (admitted : ∀ i ∈ integersIn before, l.Admits i)
    (h : readMembers l nesting before cs = .ok ⟨(fields, rest), shorter⟩) :
    ∀ i ∈ integersIn fields, l.Admits i := by
  unfold readMembers at h
  split at h
  · rw [List.length_cons] at short
    obtain ⟨⟨⟨name, afterName⟩, shorterName⟩, -, given⟩ := bind_eq_ok.mp h
    dsimp only at given shorterName
    split at given
    · rename_i afterColon _ _
      obtain ⟨⟨⟨v, afterValue⟩, shorterValue⟩, value, given⟩ := bind_eq_ok.mp given
      have inside := length_skip_le afterColon
      have here := below.value (by omega) value
      have both : ∀ i ∈ integersIn (put before name v), l.Admits i := fun i hi =>
        (mem_integersIn_put hi).elim (admitted i) (here i)
      dsimp only at given shorterValue
      split at given
      · cases given
        exact both
      · split at given
        · rename_i next _ _
          obtain ⟨⟨⟨all, after⟩, _⟩, others, given⟩ := bind_eq_ok.mp given
          cases given
          have later := length_skip_le next
          exact below.members (by omega) both others
        · cases given
    · cases given
  · cases h

end AdmittedBelow

theorem admittedBelow (l : Limits) (length : Nat) : AdmittedBelow l length := by
  induction length with
  | zero => exact ⟨nofun, nofun, nofun⟩
  | succ length below =>
    exact ⟨fun short => below.value_succ short, fun short => below.elements_succ short,
      fun short => below.members_succ short⟩

/-- No integer in a value that is read is too long. -/
theorem integers_of_read {text : String} {j : Json} (h : read l text = .ok j) :
    ∀ i ∈ j.integers, l.Admits i := by
  unfold read at h
  dsimp only at h
  split at h
  · rename_i run
    cases h
    unfold readChars at run
    split at run
    · cases run
    · obtain ⟨⟨⟨j, after⟩, _⟩, value, given⟩ := bind_eq_ok.mp run
      dsimp only at given
      split at given
      · cases given
        exact (admittedBelow l _).value (Nat.lt_succ_self _) value
      · cases given
  · cases h

end Json

/-! ## Statements -/

namespace Schema

section
variable {α : Type} {fields : List (String × Json)} {name : String} {decode : Json → Decoded α}

/-- A field that is looked up is one of the object. -/
theorem integers_of_lookup {j : Json} (h : fields.lookup name = some j) :
    j.integers ⊆ Json.integersIn fields := by
  obtain ⟨before, after, rfl, -⟩ := List.lookup_eq_some_iff.mp h
  exact fun i hi => Json.mem_integersIn.mpr ⟨(name, j), by simp, hi⟩

theorem integers_of_required {a : α} (h : required fields name decode = .ok a) :
    ∃ j, decode j = .ok a ∧ j.integers ⊆ Json.integersIn fields := by
  unfold required at h
  split at h
  · rename_i j found
    exact ⟨j, within_eq_ok.mp h, integers_of_lookup found⟩
  · cases h

theorem integers_of_optional {default a : α} (h : optional fields name default decode = .ok a) :
    a = default ∨ ∃ j, decode j = .ok a ∧ j.integers ⊆ Json.integersIn fields := by
  unfold optional at h
  split at h
  · rename_i j found
    exact .inr ⟨j, within_eq_ok.mp h, integers_of_lookup found⟩
  · exact .inl (Except.ok.inj h).symm

/-- What is read of a list is read of its items. -/
theorem integers_of_tupleOf {j : Json} {as : List α} (h : tupleOf decode j = .ok as) {a : α}
    (ha : a ∈ as) : ∃ item, decode item = .ok a ∧ item.integers ⊆ j.integers := by
  have items {start : Nat} {js : List Json} {as : List α}
      (h : Decoded.items decode start js = .ok as) (ha : a ∈ as) :
      ∃ item ∈ js, decode item = .ok a := by
    induction js generalizing start as with
    | nil =>
      cases h
      cases ha
    | cons j rest ih =>
      simp only [Decoded.items, app_eq_ok, Except.ok.injEq, exists_eq_left'] at h
      obtain ⟨_, ⟨first, read, rfl⟩, others, later, rfl⟩ := h
      rcases List.mem_cons.mp ha with rfl | ha
      · exact ⟨j, List.mem_cons_self, within_eq_ok.mp read⟩
      · obtain ⟨item, mem, read⟩ := ih later ha
        exact ⟨item, List.mem_cons_of_mem _ mem, read⟩
  cases j with
  | arr js =>
    obtain ⟨item, mem, read⟩ := items h ha
    exact ⟨item, read, fun i hi => Json.mem_integersAll.mpr ⟨item, mem, hi⟩⟩
  | null | bool | int | float | str | obj => cases h

theorem eq_ok_of_nullable {j : Json} {a : α} (h : nullable decode j = .ok (some a)) :
    decode j = .ok a := by
  cases j with
  | null => cases h
  | bool | int | float | str | arr | obj =>
    obtain ⟨_, read, same⟩ := map_eq_ok.mp h
    exact Option.some.inj same ▸ read

end

/-- The integers of an expression are those of the object it is read from, if those of its parts
are. -/
theorem integers_of_read {given : List (String × Json)} {tag : Tag} {e : Expr}
    (read : tag.read given = .ok e)
    (parts : ∀ part ∈ e.parts, ∀ j, expr j = .ok part →
      ∀ i, .int i ∈ part.literals → i ∈ j.integers) :
    ∀ i, .int i ∈ e.literals → i ∈ Json.integersIn given := by
  intro i hi
  obtain ⟨fields, -⟩ := andThen_eq_ok.mp read
  cases tag with
  | col =>
    simp only [app_eq_ok, Except.ok.injEq, exists_eq_left'] at fields
    obtain ⟨name, field, rfl⟩ := fields
    cases hi
  | value =>
    simp only [app_eq_ok, Except.ok.injEq, exists_eq_left'] at fields
    obtain ⟨v, field, rfl⟩ := fields
    obtain ⟨j, read, within⟩ := integers_of_required field
    obtain rfl := List.mem_singleton.mp hi
    cases j with
    | int k =>
      cases read
      exact within (List.mem_singleton_self _)
    | null | bool | float | str | arr | obj => cases read
  | func =>
    simp only [app_eq_ok, Except.ok.injEq, exists_eq_left'] at fields
    obtain ⟨_, ⟨_, ⟨func, -, rfl⟩, args, listed, rfl⟩, orderBy, ordering, rfl⟩ := fields
    obtain ⟨part, mem, held⟩ := Expr.mem_literals_call (c := ⟨func, args, orderBy⟩).mp hi
    have inside := parts part mem
    rcases List.mem_append.mp mem with argument | key
    · rcases integers_of_optional listed with rfl | ⟨j, read, within⟩
      · cases argument
      · obtain ⟨item, read, among⟩ := integers_of_tupleOf read argument
        exact within (among (inside item read i held))
    · cases orderBy with
      | none => cases key
      | some keys =>
        obtain ⟨j, read, within⟩ :=
          (integers_of_optional ordering).resolve_left (Option.some_ne_none _)
        obtain ⟨item, read, among⟩ := integers_of_tupleOf (eq_ok_of_nullable read) key
        exact within (among (inside item read i held))
  | op =>
    simp only [app_eq_ok, Except.ok.injEq, exists_eq_left'] at fields
    obtain ⟨_, ⟨_, ⟨op, -, rfl⟩, a, left, rfl⟩, b, right, rfl⟩ := fields
    rcases List.mem_append.mp hi with hi | hi
    · obtain ⟨j, read, within⟩ := integers_of_required left
      exact within (parts a List.mem_cons_self j read i hi)
    · obtain ⟨j, read, within⟩ := integers_of_required right
      exact within (parts b (List.mem_cons_of_mem _ List.mem_cons_self) j read i hi)
  | desc =>
    simp only [app_eq_ok, Except.ok.injEq, exists_eq_left'] at fields
    obtain ⟨inner, field, rfl⟩ := fields
    obtain ⟨j, read, within⟩ := integers_of_required field
    exact within (parts inner List.mem_cons_self j read i hi)

/-- The integers of an expression are those of its document. -/
theorem integers_of_expr (e : Expr) (j : Json) (h : expr j = .ok e) :
    ∀ i, .int i ∈ e.literals → i ∈ j.integers := by
  obtain ⟨given, rfl⟩ := exists_obj_of_expr h
  obtain ⟨tag, read⟩ := expr_eq_ok.mp h
  exact integers_of_read read fun part mem => integers_of_expr part
termination_by sizeOf e
decreasing_by exact Expr.sizeOf_lt_of_mem_parts mem

theorem integers_of_selectItem {j : Json} {item : SelectItem} (h : selectItem j = .ok item) :
    ∀ i, .int i ∈ item.expr.literals → i ∈ j.integers := by
  intro i hi
  cases j with
  | obj fields =>
    simp only [selectItem, andThen_eq_ok, app_eq_ok, Except.ok.injEq, exists_eq_left'] at h
    obtain ⟨⟨_, ⟨_, ⟨name, -, rfl⟩, e, given, rfl⟩, promoted, -, rfl⟩, -⟩ := h
    obtain ⟨j, read, within⟩ := integers_of_required given
    exact within (integers_of_expr e j read i hi)
  | null | bool | int | float | str | arr => cases h

theorem inner_of_source {j : Json} {src : Source} (h : source j = .ok src) {q : Statement}
    (given : src.inner = some q) :
    ∃ inner, statement inner = .ok q ∧ inner.integers ⊆ j.integers := by
  cases j with
  | str table =>
    cases h
    cases given
  | obj fields =>
    simp only [source, innerAt_eq, andThen_eq_ok, app_eq_ok, Except.ok.injEq,
      exists_eq_left'] at h
    obtain ⟨⟨_, ⟨_, ⟨table, -, rfl⟩, inner, field, rfl⟩, label, -, rfl⟩, -⟩ := h
    cases given
    obtain ⟨j, read, within⟩ := (integers_of_optional field).resolve_left (Option.some_ne_none _)
    exact ⟨j, eq_ok_of_nullable read, within⟩
  | null | bool | int | float | arr => cases h

/-- A document that is a statement holds the expressions of its block, and the statement below. -/
theorem integers_of_block {stmt : Statement} {j : Json} (h : statement j = .ok stmt) :
    (∀ e ∈ stmt.block.exprs, ∀ i, .int i ∈ e.literals → i ∈ j.integers) ∧
      ∀ b q, stmt = .derived b q →
        ∃ inner, statement inner = .ok q ∧ inner.integers ⊆ j.integers := by
  cases j with
  | obj fields =>
    simp only [statement, sourceAt_eq, andThen_eq_ok, app_eq_ok, Except.ok.injEq,
      exists_eq_left'] at h
    obtain ⟨⟨_, ⟨_, ⟨_, ⟨_, ⟨items, listed, rfl⟩, all, -, rfl⟩, src, sourced, rfl⟩, predicate,
      filtered, rfl⟩, isFilter, -, rfl⟩, -⟩ := h
    have exprs : ∀ e ∈ items.map (·.expr) ++ predicate.toList, ∀ i, .int i ∈ e.literals →
        i ∈ (Json.obj fields).integers := by
      intro e he i hi
      rcases List.mem_append.mp he with selected | filter
      · obtain ⟨item, mem, rfl⟩ := List.mem_map.mp selected
        rcases integers_of_optional listed with rfl | ⟨j, read, within⟩
        · cases mem
        · obtain ⟨entry, read, among⟩ := integers_of_tupleOf read mem
          exact within (among (integers_of_selectItem read i hi))
      · obtain rfl := Option.mem_toList.mp filter
        obtain ⟨j, read, within⟩ :=
          (integers_of_optional filtered).resolve_left (Option.some_ne_none _)
        exact within (integers_of_expr e j (eq_ok_of_nullable read) i hi)
    obtain ⟨j, read, within⟩ := integers_of_required sourced
    cases given : src.inner with
    | none =>
      simp only [assemble, given]
      refine ⟨exprs, fun b q same => ?_⟩
      cases same
    | some q =>
      simp only [assemble, given]
      refine ⟨exprs, fun b q' same => ?_⟩
      obtain ⟨-, rfl⟩ := Statement.derived.inj same
      obtain ⟨inner, below, among⟩ := inner_of_source read given
      exact ⟨inner, below, List.Subset.trans among within⟩
  | null | bool | int | float | str | arr => cases h

/-- The integers of a statement are those of its document. -/
theorem integers_of_statement {stmt : Statement} {j : Json} (h : statement j = .ok stmt) :
    ∀ b ∈ stmt.blocks, ∀ e ∈ b.exprs, ∀ i, .int i ∈ e.literals → i ∈ j.integers := by
  induction stmt generalizing j with
  | select b => exact List.forall_mem_singleton.mpr (integers_of_block h).1
  | derived b q ih =>
    obtain ⟨block, below⟩ := integers_of_block h
    obtain ⟨inner, read, within⟩ := below b q rfl
    refine List.forall_mem_cons.mpr ⟨block, fun b hb e he i hi => ?_⟩
    exact within (ih read b hb e he i hi)

end Schema

def Block.Admitted (l : Limits) (b : Block) : Prop := ∀ e ∈ b.exprs, e.Admitted l

def Statement.Admitted (l : Limits) (stmt : Statement) : Prop := ∀ b ∈ stmt.blocks, b.Admitted l

namespace Statement
variable {l : Limits}

theorem admitted_select {b : Block} : (select b).Admitted l ↔ b.Admitted l :=
  List.forall_mem_singleton

theorem admitted_derived {b : Block} {q : Statement} :
    (derived b q).Admitted l ↔ b.Admitted l ∧ q.Admitted l :=
  List.forall_mem_cons

end Statement

/-- Every constant of a statement that is read from a text has a text again. -/
theorem Statement.admitted_of_read {l : Limits} {text : String} {document : Json}
    {stmt : Statement} (read : Json.read l text = .ok document)
    (decoded : Schema.statement document = .ok stmt) : stmt.Admitted l := by
  intro b hb e he v hv
  cases v with
  | int i =>
    exact Json.integers_of_read read i (Schema.integers_of_statement decoded b hb e he i hv)
  | null | bool | float | str => trivial

end WindowSql
