import Mathlib.Data.List.Induction
import WindowSql.Expr.Same

/-!
# Sameness

Sameness of expressions is an equivalence, at any depth, and lists of pairs keyed by it behave as
dictionaries:

* `Quantity.same_iff`, `Literal.same_iff`: literals are the same where they have one value;
* `Expr.same_self`, `Expr.same_comm`, `Expr.same_trans`: the laws;
* `lookupBy_eq_some`, `exists_lookupBy`: what a look-up finds, and that it finds;
* `map_fst_upsertBy`: a key is added at the end, and only where no key is the same;
* `distinctKeys_eq_firstOccurrences`: the keys that are kept are those that no earlier one is the
  same as.
-/

namespace WindowSql

/-- The value of a quantity: a finite one in units of the smallest positive number, any other one as
it is. -/
def Quantity.value : Quantity → Double ⊕ Int
  | int i => .inr (i * (Nat.pow 2 1074 : Nat))
  | float (.finite negative exponent fraction) =>
    .inr (Double.units negative exponent fraction)
  | float x => .inl x

theorem Quantity.same_iff {p q : Quantity} : p.same q = true ↔ p.value = q.value := by
  cases p <;> cases q
  case int.int i j =>
    simp only [same, value, Sum.inr.injEq, beq_iff_eq]
    generalize 1074 = k
    have nonzero : Nat.pow 2 k ≠ 0 := Nat.ne_of_gt (Nat.pow_pos (Nat.succ_pos 1))
    exact (Int.mul_eq_mul_right_iff (Int.natCast_ne_zero.mpr nonzero)).symm
  case int.float i y =>
    cases y with
    | finite n e f => rw [same, value, value, Double.isInt, Sum.inr.injEq, beq_iff_eq, eq_comm]
    | nan | infinite n => exact iff_of_false nofun nofun
  case float.int x j =>
    cases x with
    | finite n e f => rw [same, value, value, Double.isInt, Sum.inr.injEq, beq_iff_eq]
    | nan | infinite n => exact iff_of_false nofun nofun
  case float.float x y => cases x <;> cases y <;> simp [same, value, Double.sameValue]

/-- What a literal is, with numbers and truth values by their value. -/
def Literal.value (v : Literal) : (Double ⊕ Int) ⊕ Literal :=
  match v.quantity? with
  | some q => .inl q.value
  | none => .inr v

theorem Literal.same_iff {v w : Literal} : v.same w = true ↔ v.value = w.value := by
  unfold same value
  cases v.quantity? <;> cases w.quantity? <;> simp [Quantity.same_iff]

namespace Literal

theorem same_self (v : Literal) : v.same v = true := same_iff.mpr rfl

theorem same_comm (v w : Literal) : v.same w = w.same v := by
  rw [Bool.eq_iff_iff, same_iff, same_iff, eq_comm]

theorem same_trans {v w u : Literal} (h : v.same w = true) (h' : w.same u = true) :
    v.same u = true :=
  same_iff.mpr ((same_iff.mp h).trans (same_iff.mp h'))

end Literal

namespace Expr

mutual

theorem same_self : ∀ e : Expr, e.same e = true
  | column name => by simp [same]
  | literal v => by simp [same, v.same_self]
  | call f as none => by simp [same, sameAll_self as]
  | call f as (some ks) => by simp [same, sameAll_self as, sameAll_self ks]
  | binary op l r => by simp [same, same_self l, same_self r]
  | desc e => by simp [same, same_self e]

theorem sameAll_self : ∀ es : List Expr, sameAll es es = true
  | [] => rfl
  | e :: rest => by simp [sameAll, same_self e, sameAll_self rest]

end

mutual

theorem same_comm : ∀ a b : Expr, a.same b = b.same a
  | column x, b => by cases b <;> simp [same, Bool.beq_comm (a := x)]
  | literal v, b => by cases b <;> simp [same, v.same_comm]
  | call f as none, b => by
    cases b with
    | call g bs o => cases o <;> simp [same, Bool.beq_comm (a := f), sameAll_comm as bs]
    | _ => simp [same]
  | call f as (some ks), b => by
    cases b with
    | call g bs o =>
      cases o with
      | none => simp [same]
      | some ls => simp [same, Bool.beq_comm (a := f), sameAll_comm as bs, sameAll_comm ks ls]
    | _ => simp [same]
  | binary o l r, b => by
    cases b with
    | binary p l' r' => simp [same, Bool.beq_comm (a := o), same_comm l l', same_comm r r']
    | _ => simp [same]
  | desc e, b => by
    cases b with
    | desc e' => simp [same, same_comm e e']
    | _ => simp [same]

theorem sameAll_comm : ∀ as bs : List Expr, sameAll as bs = sameAll bs as
  | [], bs => by cases bs <;> rfl
  | a :: as, [] => rfl
  | a :: as, b :: bs => by simp [sameAll, same_comm a b, sameAll_comm as bs]

end

mutual

theorem same_trans : ∀ {a b c : Expr}, a.same b = true → b.same c = true → a.same c = true
  | column x, b, c => by
    cases b <;> simp only [same, beq_iff_eq, Bool.false_eq_true, false_implies]
    rintro rfl
    exact id
  | literal v, b, c => by
    cases b with
    | literal w =>
      cases c with
      | literal u => exact Literal.same_trans
      | _ => simp [same]
    | _ => simp [same]
  | call f as none, b, c => by
    cases b with
    | call g bs o =>
      cases c with
      | call k cs p =>
        cases o <;> cases p <;> simp [same]
        rintro rfl first rfl second
        exact ⟨rfl, sameAll_trans first second⟩
      | _ => simp [same]
    | _ => simp [same]
  | call f as (some ks), b, c => by
    cases b with
    | call g bs o =>
      cases c with
      | call k cs p =>
        cases o <;> cases p <;> simp [same]
        rintro rfl args keys rfl args' keys'
        exact ⟨⟨rfl, sameAll_trans args args'⟩, sameAll_trans keys keys'⟩
      | _ => simp [same]
    | _ => simp [same]
  | binary o l r, b, c => by
    cases b with
    | binary p l' r' =>
      cases c with
      | binary q l'' r'' =>
        simp [same]
        rintro rfl left right rfl left' right'
        exact ⟨⟨rfl, same_trans left left'⟩, same_trans right right'⟩
      | _ => simp [same]
    | _ => simp [same]
  | desc e, b, c => by
    cases b with
    | desc e' =>
      cases c with
      | desc e'' => simpa [same] using same_trans
      | _ => simp [same]
    | _ => simp [same]

theorem sameAll_trans : ∀ {as bs cs : List Expr},
    sameAll as bs = true → sameAll bs cs = true → sameAll as cs = true
  | [], bs, cs => by cases bs <;> simp [sameAll]
  | a :: as, bs, cs => by
    cases bs with
    | nil => simp [sameAll]
    | cons b bs =>
      cases cs with
      | nil => simp [sameAll]
      | cons c cs =>
        simp [sameAll]
        intro first rest first' rest'
        exact ⟨same_trans first first', sameAll_trans rest rest'⟩

end

end Expr

theorem Call.same_self (c : Call) : c.same c = true := c.toExpr.same_self

theorem Call.same_comm (c c' : Call) : c.same c' = c'.same c := c.toExpr.same_comm c'.toExpr

theorem Call.same_trans {c c' c'' : Call} (h : c.same c' = true) (h' : c'.same c'' = true) :
    c.same c'' = true :=
  Expr.same_trans h h'

section
variable {α β : Type} {same : α → α → Bool}

theorem lookupBy_eq_some {pairs : List (α × β)} {key : α} {v : β}
    (h : lookupBy same pairs key = some v) : ∃ k, (k, v) ∈ pairs ∧ same k key = true := by
  obtain ⟨⟨k, w⟩, found, rfl⟩ := Option.map_eq_some_iff.mp h
  exact ⟨k, List.mem_of_find?_eq_some found, by simpa using List.find?_some found⟩

theorem exists_lookupBy {pairs : List (α × β)} {key k : α} (mem : k ∈ pairs.map Prod.fst)
    (h : same k key = true) : ∃ v, lookupBy same pairs key = some v := by
  obtain ⟨p, hp, rfl⟩ := List.mem_map.mp mem
  have found : (pairs.find? fun q => same q.1 key).isSome := List.find?_isSome.mpr ⟨p, hp, h⟩
  obtain ⟨q, hq⟩ := Option.isSome_iff_exists.mp found
  exact ⟨q.2, by simp [lookupBy, hq]⟩

/-- A key finds its own value where no key before it is the same. -/
theorem lookupBy_of_mem (refl : ∀ a, same a a = true) {pairs : List (α × β)} {key : α} {v : β}
    (distinct : (pairs.map Prod.fst).Pairwise fun a b => same a b = false)
    (mem : (key, v) ∈ pairs) : lookupBy same pairs key = some v := by
  induction pairs with
  | nil => cases mem
  | cons p rest ih =>
    obtain ⟨first, others⟩ := List.pairwise_cons.mp distinct
    rcases List.mem_cons.mp mem with rfl | later
    · simp [lookupBy, refl]
    · have apart := first key (List.mem_map.mpr ⟨_, later, rfl⟩)
      simpa [lookupBy, apart] using ih others later

def addKey (same : α → α → Bool) (keys : List α) (key : α) : List α :=
  if keys.any (same · key) then keys else keys ++ [key]

theorem map_fst_upsertBy (key : α) (change : Option β → β) (pairs : List (α × β)) :
    (upsertBy same key change pairs).map Prod.fst = addKey same (pairs.map Prod.fst) key := by
  induction pairs with
  | nil => rfl
  | cons p rest ih =>
    cases h : same p.1 key
    · simp only [upsertBy, h, Bool.false_eq_true, ↓reduceIte, List.map_cons, ih, addKey,
        List.any_cons, Bool.false_or]
      split <;> rfl
    · simp [upsertBy, addKey, h]

theorem subset_addKey (keys : List α) (key : α) : keys ⊆ addKey same keys key := by
  unfold addKey
  split
  · exact List.Subset.refl _
  · exact List.subset_append_left _ _

theorem mem_addKey {keys : List α} {key k : α} (h : k ∈ addKey same keys key) :
    k ∈ keys ∨ k = key := by
  unfold addKey at h
  split at h
  · exact .inl h
  · simpa using h

theorem exists_same_addKey (refl : ∀ a, same a a = true) (keys : List α) (key : α) :
    ∃ k ∈ addKey same keys key, same k key = true := by
  unfold addKey
  split
  · rename_i found
    exact List.any_eq_true.mp found
  · exact ⟨key, by simp, refl key⟩

theorem pairwise_addKey {keys : List α} (key : α)
    (h : keys.Pairwise fun a b => same a b = false) :
    (addKey same keys key).Pairwise fun a b => same a b = false := by
  unfold addKey
  split
  · exact h
  · rename_i absent
    refine List.pairwise_append.mpr ⟨h, List.pairwise_singleton _ _, ?_⟩
    intro a ha b hb
    obtain rfl := List.mem_singleton.mp hb
    simpa using fun same => absent (List.any_eq_true.mpr ⟨a, ha, same⟩)

/-- The distinct keys of a list, each where it first occurs. -/
def distinctKeys (same : α → α → Bool) (keys : List α) : List α := keys.foldl (addKey same) []

/-- A fold that adds a list of keys to others loses none of either, invents none and repeats
none. -/
theorem foldl_addKey_spec (refl : ∀ a, same a a = true) (more keys : List α)
    (h : keys.Pairwise fun a b => same a b = false) :
    keys ⊆ more.foldl (addKey same) keys ∧
    (∀ k ∈ more.foldl (addKey same) keys, k ∈ keys ∨ k ∈ more) ∧
    (∀ k ∈ more, ∃ k' ∈ more.foldl (addKey same) keys, same k' k = true) ∧
    (more.foldl (addKey same) keys).Pairwise fun a b => same a b = false := by
  induction more generalizing keys with
  | nil => exact ⟨List.Subset.refl _, fun k hk => .inl hk, by simp, h⟩
  | cons key rest ih =>
    obtain ⟨keeps, known, covers, apart⟩ := ih (addKey same keys key) (pairwise_addKey key h)
    rw [List.foldl_cons]
    refine ⟨fun k hk => keeps (subset_addKey keys key hk), ?_, ?_, apart⟩
    · intro k hk
      rcases known k hk with old | new
      · rcases mem_addKey old with old | rfl
        · exact .inl old
        · exact .inr List.mem_cons_self
      · exact .inr (List.mem_cons_of_mem _ new)
    · intro k hk
      rcases List.mem_cons.mp hk with rfl | later
      · obtain ⟨k', hk', hs⟩ := exists_same_addKey refl keys k
        exact ⟨k', keeps hk', hs⟩
      · exact covers k later

theorem mem_of_mem_distinctKeys (refl : ∀ a, same a a = true) {keys : List α} {k : α}
    (h : k ∈ distinctKeys same keys) : k ∈ keys := by
  simpa using (foldl_addKey_spec refl keys [] List.Pairwise.nil).2.1 k h

theorem exists_same_distinctKeys (refl : ∀ a, same a a = true) {keys : List α} {k : α}
    (h : k ∈ keys) : ∃ k' ∈ distinctKeys same keys, same k' k = true :=
  (foldl_addKey_spec refl keys [] List.Pairwise.nil).2.2.1 k h

/-- The elements that no earlier one is the same as, in order. -/
def firstOccurrences (same : α → α → Bool) (l : List α) : List α :=
  (l.zipIdx.filter fun p => (l.take p.2).all fun a => !same a p.1).map Prod.fst

theorem firstOccurrences_append_singleton (l : List α) (a : α) :
    firstOccurrences same (l ++ [a]) =
      firstOccurrences same l ++ if l.any (same · a) then [] else [a] := by
  have earlier : ∀ p ∈ l.zipIdx, (l ++ [a]).take p.2 = l.take p.2 := by
    intro p hp
    have inside : p.2 < l.length := by simpa using List.snd_lt_of_mem_zipIdx hp
    exact List.take_append_of_le_length (Nat.le_of_lt inside)
  have kept : (l.zipIdx.filter fun p => ((l ++ [a]).take p.2).all fun b => !same b p.1) =
      l.zipIdx.filter fun p => (l.take p.2).all fun b => !same b p.1 :=
    List.filter_congr fun p hp => by rw [earlier p hp]
  rw [firstOccurrences, List.zipIdx_append, List.filter_append, List.map_append, kept]
  congr 1
  have last : (l ++ [a]).take l.length = l := by simp
  have new : (l.all fun b => !same b a) = !l.any (same · a) := by simp [List.any_eq_not_all_not]
  rw [Nat.zero_add, List.zipIdx_singleton, List.filter_cons, last, new]
  cases l.any (same · a) <;> rfl

theorem distinctKeys_eq_firstOccurrences (refl : ∀ a, same a a = true)
    (trans : ∀ {a b c}, same a b = true → same b c = true → same a c = true) (l : List α) :
    distinctKeys same l = firstOccurrences same l := by
  induction l using List.reverseRecOn with
  | nil => rfl
  | append_singleton l a ih =>
    have seen : (distinctKeys same l).any (same · a) = l.any (same · a) := by
      rw [Bool.eq_iff_iff, List.any_eq_true, List.any_eq_true]
      constructor
      · rintro ⟨k, hk, found⟩
        exact ⟨k, mem_of_mem_distinctKeys refl hk, found⟩
      · rintro ⟨k, hk, found⟩
        obtain ⟨k', hk', first⟩ := exists_same_distinctKeys refl hk
        exact ⟨k', hk', trans first found⟩
    have step : distinctKeys same (l ++ [a]) = addKey same (distinctKeys same l) a := by
      rw [distinctKeys, List.foldl_append]
      rfl
    rw [step, firstOccurrences_append_singleton, ← ih, addKey, seen]
    split <;> simp

theorem pairwise_distinctKeys (refl : ∀ a, same a a = true) (keys : List α) :
    (distinctKeys same keys).Pairwise fun a b => same a b = false :=
  (foldl_addKey_spec refl keys [] List.Pairwise.nil).2.2.2

end

end WindowSql
