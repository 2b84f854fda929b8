import Mathlib.Data.List.TakeWhile
import Mathlib.Logic.Basic
import WindowSql.Proofs.AcceptedCalls
import WindowSql.Proofs.DerivedNames

/-!
# Well-formed statements

What the check accepts, said without the check:

* `Expr.Stands`: the expressions that stand in an expression at any depth, each with what it is used
  as, and `Expr.deepInduction`, the induction that goes into calls as well;
* `checkDesc_eq_ok_iff`: the check of `desc` goes through exactly these;
* `Expr.check_eq_ok_iff`: the expressions that pass;
* `check_iff_wellFormed`: a statement passes exactly where all of its levels are well formed.
-/

namespace WindowSql

/-- What an expression is used as: all of a select item or of a filter, an operand, an argument of a
function at a position, or a key of a call. -/
inductive Role where
  | whole
  | operand
  | argument (func : String) (position : Nat)
  | key

namespace Expr

/-- An expression with its role, and one that stands in it with its own. What is below a `desc` is
used as the `desc` is, so all of a chain has one role. -/
inductive Stands : Role → Expr → Role → Expr → Prop where
  | here {role : Role} {e : Expr} : Stands role e role e
  | left {role role' : Role} {op : BinaryOp} {l r x : Expr} (inside : Stands .operand l role' x) :
      Stands role (.binary op l r) role' x
  | right {role role' : Role} {op : BinaryOp} {l r x : Expr} (inside : Stands .operand r role' x) :
      Stands role (.binary op l r) role' x
  | chain {role role' : Role} {e x : Expr} (inside : Stands role e role' x) :
      Stands role (.desc e) role' x
  | argument {role role' : Role} {func : String} {args : List Expr} {orderBy : Option (List Expr)}
      {position : Nat} {a x : Expr} (given : args[position]? = some a)
      (inside : Stands (.argument func position) a role' x) :
      Stands role (.call func args orderBy) role' x
  | key {role role' : Role} {func : String} {args : List Expr} {orderBy : Option (List Expr)}
      {k x : Expr} (given : k ∈ orderBy.getD []) (inside : Stands .key k role' x) :
      Stands role (.call func args orderBy) role' x

/-- Induction over all of an expression, the arguments and the keys of its calls included. -/
theorem deepInduction {motive : Expr → Prop} (column : ∀ name, motive (column name))
    (literal : ∀ v, motive (literal v))
    (call : ∀ func args orderBy, (∀ a ∈ args, motive a) → (∀ k ∈ orderBy.getD [], motive k) →
      motive (call func args orderBy))
    (binary : ∀ op l r, motive l → motive r → motive (binary op l r))
    (desc : ∀ e, motive e → motive (desc e)) : ∀ e, motive e :=
  @Expr.rec motive (fun es => ∀ e ∈ es, motive e) (fun keys => ∀ k ∈ keys.getD [], motive k) column
    literal call binary desc nofun
    (fun _ _ first others => List.forall_mem_cons.mpr ⟨first, others⟩) nofun (fun _ keys => keys)

/-- An outermost call stands in an expression. -/
theorem exists_stands_of_mem_calls {e : Expr} {c : Call} (h : c ∈ e.calls) (role : Role) :
    ∃ role', Stands role e role' c.toExpr := by
  induction e generalizing role with
  | column name => cases h
  | literal v => cases h
  | call func args orderBy =>
    obtain rfl := List.mem_singleton.mp h
    exact ⟨role, .here⟩
  | binary op l r ihl ihr =>
    rcases List.mem_append.mp h with left | right
    · obtain ⟨role', inside⟩ := ihl left .operand
      exact ⟨role', .left inside⟩
    · obtain ⟨role', inside⟩ := ihr right .operand
      exact ⟨role', .right inside⟩
  | desc e ih =>
    obtain ⟨role', inside⟩ := ih h role
    exact ⟨role', .chain inside⟩

/-- A call that stands in an expression is an outermost one, or stands in an argument or a key of an
outermost one. -/
theorem Stands.call_cases {role role' : Role} {e : Expr} {c : Call}
    (h : Stands role e role' c.toExpr) :
    c ∈ e.calls ∨ ∃ outer ∈ e.calls, ∃ a ∈ outer.args ++ outer.keys, ∃ inner,
      Stands inner a role' c.toExpr := by
  generalize same : c.toExpr = x at h
  induction h with
  | here =>
    subst same
    exact .inl (List.mem_singleton_self c)
  | left inside ih =>
    refine (ih same).imp (List.mem_append_left _) ?_
    rintro ⟨outer, mem, rest⟩
    exact ⟨outer, List.mem_append_left _ mem, rest⟩
  | right inside ih =>
    refine (ih same).imp (List.mem_append_right _) ?_
    rintro ⟨outer, mem, rest⟩
    exact ⟨outer, List.mem_append_right _ mem, rest⟩
  | chain inside ih => exact ih same
  | argument given inside =>
    exact .inr ⟨_, List.mem_singleton_self _, _,
      List.mem_append_left _ (List.mem_of_getElem? given), _, inside⟩
  | key given inside =>
    exact .inr ⟨_, List.mem_singleton_self _, _, List.mem_append_right _ given, _, inside⟩

/-- An expression without outermost calls has no call at any depth. -/
theorem calls_eq_nil_iff_stands {e : Expr} (role : Role) :
    e.calls = [] ↔ ∀ role' (c : Call), ¬Stands role e role' c.toExpr := by
  constructor
  · intro none role' c h
    obtain ⟨outer, mem⟩ : ∃ outer, outer ∈ e.calls := by
      rcases h.call_cases with mem | ⟨outer, mem, -⟩
      · exact ⟨c, mem⟩
      · exact ⟨outer, mem⟩
    simp [none] at mem
  · intro none
    refine List.eq_nil_iff_forall_not_mem.mpr fun c hc => ?_
    obtain ⟨role', inside⟩ := exists_stands_of_mem_calls hc role
    exact none role' c inside

end Expr

/-- Where no outermost call holds another one, the outermost calls are all there are. -/
theorem Expr.Stands.mem_calls {role role' : Role} {e : Expr} {c : Call}
    (h : Stands role e role' c.toExpr) (unnested : ∀ c ∈ e.calls, c.nested? = none) :
    c ∈ e.calls := by
  refine h.call_cases.resolve_right ?_
  rintro ⟨outer, mem, a, ha, inner, inside⟩
  obtain ⟨args, keys⟩ := outer.nested?_eq_none_iff.mp (unnested outer mem)
  have flat : a.calls = [] := (List.mem_append.mp ha).elim (args a) (keys a)
  exact (calls_eq_nil_iff_stands inner).mp flat role' c inside

/-- A name stands for the last function of its name, without the blanks around it and in lower
case. -/
def Catalog.Knows (catalog : Catalog) (name : String) (f : WindowFunction) : Prop :=
  ∃ before after, catalog.functions = before ++ f :: after ∧
    f.name = Text.lower (Text.strip name) ∧ ∀ g ∈ after, g.name ≠ f.name

theorem Catalog.get_eq_ok_iff {catalog : Catalog} {name : String} {f : WindowFunction} :
    catalog.get name = .ok f ↔ catalog.Knows name f := by
  have found : catalog.get name = .ok f ↔ catalog.find? name = some f := by
    unfold Catalog.get
    cases catalog.find? name <;> simp
  rw [found, Catalog.find?, List.find?_eq_some_iff_append]
  constructor
  · rintro ⟨named, after, before, split, others⟩
    have name_eq : f.name = Text.lower (Text.strip name) := by simpa [key] using named
    refine ⟨before.reverse, after.reverse, ?_, name_eq, fun g hg => ?_⟩
    · rw [List.reverse_eq_iff] at split
      simpa using split
    · have other := others g (List.mem_reverse.mp hg)
      simpa [key, name_eq] using other
  · rintro ⟨before, after, split, named, others⟩
    refine ⟨by simpa [key] using named, after.reverse, before.reverse, by simp [split], ?_⟩
    intro g hg
    have other := others g (List.mem_reverse.mp hg)
    simpa [key, named] using other

theorem Catalog.Knows.unique {catalog : Catalog} {name : String} {f f' : WindowFunction}
    (h : catalog.Knows name f) (h' : catalog.Knows name f') : f = f' :=
  Except.ok.inj ((Catalog.get_eq_ok_iff.mpr h).symm.trans (Catalog.get_eq_ok_iff.mpr h'))

/-- A `desc` of this role turns an ordering key round: it is the first argument of a ranking
function, or a key. -/
def Role.Orders (catalog : Catalog) : Role → Prop
  | .argument func 0 => ∃ f, catalog.Knows func f ∧ f.category = .ranking
  | .key => True
  | _ => False

namespace Expr
variable {catalog : Catalog} {place : Place} {role : Role}

/-- Every `desc` in an expression of a role orders something, and every call in it is known. -/
structure Placed (catalog : Catalog) (role : Role) (e : Expr) : Prop where
  ordering : ∀ role' x, Stands role e role' (.desc x) → role'.Orders catalog
  known : ∀ role' (c : Call), Stands role e role' c.toExpr → ∃ f, catalog.Knows c.func f

theorem placed_binary_iff {op : BinaryOp} {l r : Expr} :
    (binary op l r).Placed catalog role ↔
      l.Placed catalog .operand ∧ r.Placed catalog .operand := by
  constructor
  · intro h
    exact ⟨⟨fun _ _ inside => h.ordering _ _ (.left inside),
        fun _ _ inside => h.known _ _ (.left inside)⟩,
      ⟨fun _ _ inside => h.ordering _ _ (.right inside),
        fun _ _ inside => h.known _ _ (.right inside)⟩⟩
  · rintro ⟨left, right⟩
    constructor
    · intro role' x h
      cases h with
      | left inside => exact left.ordering _ _ inside
      | right inside => exact right.ordering _ _ inside
    · intro role' c h
      cases h with
      | left inside => exact left.known _ _ inside
      | right inside => exact right.known _ _ inside

theorem placed_desc_iff {e : Expr} :
    (desc e).Placed catalog role ↔ role.Orders catalog ∧ e.Placed catalog role := by
  constructor
  · intro h
    exact ⟨h.ordering _ _ .here, fun _ _ inside => h.ordering _ _ (.chain inside),
      fun _ _ inside => h.known _ _ (.chain inside)⟩
  · rintro ⟨orders, inner⟩
    constructor
    · intro role' x h
      cases h with
      | here => exact orders
      | chain inside => exact inner.ordering _ _ inside
    · intro role' c h
      cases h with
      | chain inside => exact inner.known _ _ inside

theorem placed_call_iff {func : String} {args : List Expr} {orderBy : Option (List Expr)} :
    (call func args orderBy).Placed catalog role ↔
      (∃ f, catalog.Knows func f) ∧
      (∀ (i : Nat) a, args[i]? = some a → a.Placed catalog (.argument func i)) ∧
      ∀ k ∈ orderBy.getD [], k.Placed catalog .key := by
  constructor
  · intro h
    refine ⟨h.known role ⟨func, args, orderBy⟩ .here, fun i a given => ?_, fun k given => ?_⟩
    · exact ⟨fun _ _ inside => h.ordering _ _ (.argument given inside),
        fun _ _ inside => h.known _ _ (.argument given inside)⟩
    · exact ⟨fun _ _ inside => h.ordering _ _ (.key given inside),
        fun _ _ inside => h.known _ _ (.key given inside)⟩
  · rintro ⟨known, arguments, keys⟩
    constructor
    · intro role' x h
      cases h with
      | argument given inside => exact (arguments _ _ given).ordering _ _ inside
      | key given inside => exact (keys _ given).ordering _ _ inside
    · intro role' c h
      generalize same : c.toExpr = x at h
      cases h with
      | here =>
        cases same
        exact known
      | argument given inside =>
        subst same
        exact (arguments _ _ given).known _ _ inside
      | key given inside =>
        subst same
        exact (keys _ given).known _ _ inside

theorem checkDescs_eq_ok_iff {first others : Bool} {es : List Expr} :
    checkDescs catalog place first others es = .ok () ↔
      ∀ (i : Nat) e, es[i]? = some e →
        e.checkDesc catalog place (if i = 0 then first else others) = .ok () := by
  rw [checkDescs_eq_ok]
  cases es with
  | nil => simp
  | cons a rest =>
    constructor
    · rintro ⟨head, tail⟩ i e given
      cases i with
      | zero => exact head e (by simpa using given)
      | succ i => exact tail e (List.mem_of_getElem? (by simpa using given))
    · intro all
      refine ⟨fun e he => all 0 e (by simpa using he), fun e he => ?_⟩
      obtain ⟨i, given⟩ := List.mem_iff_getElem?.mp he
      exact all (i + 1) e (by simpa using given)

theorem checkDescs_keys_eq_ok_iff {orderBy : Option (List Expr)} :
    (∀ keys ∈ orderBy, checkDescs catalog place true true keys = .ok ()) ↔
      ∀ k ∈ orderBy.getD [], k.checkDesc catalog place true = .ok () := by
  cases orderBy with
  | none => simp
  | some keys =>
    simp only [Option.mem_some_iff, forall_eq', checkDescs_eq_ok_iff, ite_self, Option.getD_some,
      List.mem_iff_getElem?]
    grind

/-- The check of `desc` accepts an expression of a role exactly where all in it is in place. -/
theorem checkDesc_eq_ok_iff {e : Expr} {isKey : Bool}
    (orders : isKey = true ↔ role.Orders catalog) :
    e.checkDesc catalog place isKey = .ok () ↔ e.Placed catalog role := by
  induction e using deepInduction generalizing role isKey with
  | column name => exact iff_of_true rfl ⟨nofun, nofun⟩
  | literal v => exact iff_of_true rfl ⟨nofun, nofun⟩
  | binary op l r ihl ihr =>
    have operand : false = true ↔ Role.operand.Orders catalog := by simp [Role.Orders]
    rw [checkDesc, check_bind_eq_ok, ihl operand, ihr operand, placed_binary_iff]
  | desc e ih =>
    rw [placed_desc_iff, ← orders, checkDesc]
    cases isKey with
    | true => simpa using ih orders
    | false => simp
  | call func args orderBy ihArgs ihKeys =>
    have key : true = true ↔ Role.key.Orders catalog := by simp [Role.Orders]
    have argument {f : WindowFunction} (known : catalog.Knows func f) (i : Nat) {a : Expr}
        (given : args[i]? = some a) :
        a.checkDesc catalog place (if i = 0 then f.category == .ranking else false) = .ok () ↔
          a.Placed catalog (.argument func i) := by
      refine ihArgs a (List.mem_of_getElem? given) ?_
      cases i with
      | zero =>
        simp only [↓reduceIte, beq_iff_eq, Role.Orders]
        constructor
        · intro ranking
          exact ⟨f, known, ranking⟩
        · rintro ⟨f', known', ranking⟩
          obtain rfl := known'.unique known
          exact ranking
      | succ i => simp [Role.Orders]
    have calls : (call func args orderBy).checkDesc catalog place isKey = .ok () ↔
        ∃ f, catalog.get func = .ok f ∧
          checkDescs catalog place (f.category == .ranking) false args = .ok () ∧
          ∀ keys ∈ orderBy, checkDescs catalog place true true keys = .ok () :=
      Call.checkDesc_toExpr_eq_ok (c := ⟨func, args, orderBy⟩)
    rw [calls, placed_call_iff]
    constructor
    · rintro ⟨f, found, inArgs, inKeys⟩
      have known := Catalog.get_eq_ok_iff.mp found
      refine ⟨⟨f, known⟩, fun i a given => ?_, fun k hk => ?_⟩
      · exact (argument known i given).mp (checkDescs_eq_ok_iff.mp inArgs i a given)
      · exact (ihKeys k hk key).mp (checkDescs_keys_eq_ok_iff.mp inKeys k hk)
    · rintro ⟨⟨f, known⟩, inArgs, inKeys⟩
      refine ⟨f, Catalog.get_eq_ok_iff.mpr known, ?_, ?_⟩
      · exact checkDescs_eq_ok_iff.mpr fun i a given =>
          (argument known i given).mpr (inArgs i a given)
      · exact checkDescs_keys_eq_ok_iff.mpr fun k hk => (ihKeys k hk key).mpr (inKeys k hk)

end Expr

/-- There are as many arguments as the function takes, and where one is at a position that it wants
an integer at, counted from the start or from the end, it is one of at least that size. -/
structure WindowFunction.Takes (f : WindowFunction) (args : List Expr) : Prop where
  least : f.minArgs ≤ args.length
  most : args.length ≤ f.maxArgs
  integers : ∀ rule ∈ f.integerArgs, ∀ (i : Nat) (e : Expr), args[i]? = some e →
    rule.1 = i ∨ rule.1 = (i : Int) - args.length → ∃ n, e = .literal (.int n) ∧ rule.2 ≤ n

theorem Expr.isIntegerFrom_iff {least : Int} {e : Expr} :
    e.isIntegerFrom least = true ↔ ∃ n, e = .literal (.int n) ∧ least ≤ n := by
  unfold isIntegerFrom
  split
  · simp
  · rename_i other
    refine iff_of_false nofun ?_
    rintro ⟨n, rfl, -⟩
    exact other n rfl

namespace Call

theorem argumentAt?_eq_some_iff {c : Call} {position : Int} {i : Nat} {e : Expr} :
    c.argumentAt? position = some (i, e) ↔
      c.args[i]? = some e ∧ (position = i ∨ position = (i : Int) - c.args.length) := by
  have inside (given : c.args[i]? = some e) : i < c.args.length :=
    (List.getElem?_eq_some_iff.mp given).1
  simp only [argumentAt?]
  generalize counted : (if 0 ≤ position then position else c.args.length + position) = index
  have here (given : c.args[i]? = some e) :
      index = i ↔ position = i ∨ position = (i : Int) - c.args.length := by
    have := inside given
    split at counted <;> omega
  constructor
  · intro found
    split at found
    · rename_i counts
      obtain ⟨e', given, same⟩ := Option.map_eq_some_iff.mp found
      cases same
      exact ⟨given, (here given).mp (Int.toNat_of_nonneg counts).symm⟩
    · cases found
  · rintro ⟨given, placed⟩
    obtain rfl := (here given).mpr placed
    simp [given]

theorem checkArgs_eq_ok_iff_takes {c : Call} {f : WindowFunction} :
    c.checkArgs f = .ok () ↔ f.Takes c.args := by
  have integers (rule : Int × Int) :
      (∀ p ∈ c.argumentAt? rule.1, p.2.isIntegerFrom rule.2 = true) ↔
        ∀ (i : Nat) (e : Expr), c.args[i]? = some e →
          rule.1 = i ∨ rule.1 = (i : Int) - c.args.length →
            ∃ n, e = .literal (.int n) ∧ rule.2 ≤ n := by
    simp only [Option.mem_def, Prod.forall, argumentAt?_eq_some_iff, Expr.isIntegerFrom_iff,
      and_imp]
  rw [checkArgs_eq_ok]
  constructor
  · rintro ⟨⟨least, most⟩, given⟩
    exact ⟨least, most, fun rule hr => (integers rule).mp (given rule hr)⟩
  · rintro ⟨least, most, given⟩
    exact ⟨⟨least, most⟩, fun rule hr => (integers rule).mpr (given rule hr)⟩

end Call

structure Expr.WellFormed (catalog : Catalog) (e : Expr) : Prop where
  /-- A `desc` turns an ordering key round. -/
  ordering : ∀ role x, Stands .whole e role (.desc x) → role.Orders catalog
  /-- No call stands in an argument or a key of another one. -/
  flat : ∀ role (c : Call), Stands .whole e role c.toExpr → ∀ a ∈ c.args ++ c.keys,
    ∀ role' (c' : Call), ¬Stands .whole a role' c'.toExpr
  /-- A call is one of a known function, with arguments that it takes. -/
  calls : ∀ role (c : Call), Stands .whole e role c.toExpr →
    ∃ f, catalog.Knows c.func f ∧ f.Takes c.args

theorem Expr.check_eq_ok_iff {catalog : Catalog} {place : Place} {e : Expr} :
    e.check catalog place = .ok () ↔ e.WellFormed catalog := by
  have whole : false = true ↔ Role.whole.Orders catalog := by simp [Role.Orders]
  rw [Expr.check_eq_ok, checkDesc_eq_ok_iff whole]
  constructor
  · rintro ⟨placed, calls⟩
    have each (c : Call) (hc : c ∈ e.calls) :
        c.nested? = none ∧ ∃ f, catalog.Knows c.func f ∧ f.Takes c.args := by
      obtain ⟨unnested, f, found, args⟩ := Call.check_eq_ok.mp (calls c hc)
      exact ⟨unnested, f, Catalog.get_eq_ok_iff.mp found, Call.checkArgs_eq_ok_iff_takes.mp args⟩
    have outermost {role : Role} {c : Call} (h : Stands .whole e role c.toExpr) : c ∈ e.calls :=
      h.mem_calls fun c hc => (each c hc).1
    refine ⟨placed.ordering, fun role c h a ha => ?_, fun role c h => (each c (outermost h)).2⟩
    obtain ⟨args, keys⟩ := c.nested?_eq_none_iff.mp (each c (outermost h)).1
    exact (calls_eq_nil_iff_stands .whole).mp ((List.mem_append.mp ha).elim (args a) (keys a))
  · rintro ⟨ordering, flat, calls⟩
    refine ⟨⟨ordering, fun role c h => ?_⟩, fun c hc => Call.check_eq_ok.mpr ?_⟩
    · obtain ⟨f, known, -⟩ := calls role c h
      exact ⟨f, known⟩
    · obtain ⟨role, h⟩ := exists_stands_of_mem_calls hc .whole
      obtain ⟨f, known, takes⟩ := calls role c h
      have noCalls (a : Expr) (ha : a ∈ c.args ++ c.keys) : a.calls = [] :=
        (calls_eq_nil_iff_stands .whole).mpr (flat role c h a ha)
      refine ⟨c.nested?_eq_none_iff.mpr ⟨fun a ha => ?_, fun k hk => ?_⟩, f,
        Catalog.get_eq_ok_iff.mpr known, Call.checkArgs_eq_ok_iff_takes.mpr takes⟩
      · exact noCalls a (List.mem_append_left _ ha)
      · exact noCalls k (List.mem_append_right _ hk)

/-! ## Well-formed statements -/

theorem Text.trimWhile_eq_nil_iff {p : Char → Bool} {cs : List Char} :
    trimWhile p cs = [] ↔ ∀ c ∈ cs, p c = true := by
  simp only [trimWhile, List.reverse_eq_nil_iff, List.dropWhile_eq_nil_iff, List.mem_reverse]
  constructor
  · intro blank c hc
    rw [← List.takeWhile_append_dropWhile (p := p) (l := cs)] at hc
    rcases List.mem_append.mp hc with first | rest
    · exact List.mem_takeWhile_imp first
    · exact blank c rest
  · intro blank c hc
    exact blank c ((List.dropWhile_suffix p).subset hc)

theorem Text.strip_eq_empty_iff {s : String} :
    strip s = "" ↔ s.toList.all isBlank = true := by
  rw [strip, List.all_eq_true, ← trimWhile_eq_nil_iff, String.ofList_eq_empty_iff]

theorem Block.check_eq_ok_iff {catalog : Catalog} {b : Block} :
    b.check catalog = .ok () ↔ b.names.Nodup ∧ ∀ e ∈ b.exprs, e.WellFormed catalog := by
  simp only [Block.check_eq_ok, Expr.check_eq_ok_iff, Block.exprs, List.forall_mem_append,
    List.forall_mem_map, Option.mem_toList, Option.mem_def]

namespace Statement

/-- One level of a statement that follows the rules: it reads from a table or a statement and not
from both, its table has a name, its select list has no name twice, and its expressions are well
formed. -/
structure WellFormed (catalog : Catalog) (stmt : Statement) : Prop where
  source : Xor (stmt.block.table.isSome = true) (stmt.source?.isSome = true)
  named : ∀ name ∈ stmt.block.table, Text.strip name ≠ ""
  distinct : stmt.block.names.Nodup
  exprs : ∀ e ∈ stmt.block.exprs, e.WellFormed catalog

theorem wellFormed_select_iff {catalog : Catalog} {b : Block} :
    (select b).WellFormed catalog ↔ b.checkTable = .ok () ∧ b.check catalog = .ok () := by
  have table : b.checkTable = .ok () ↔ ∃ name, b.table = some name ∧ Text.strip name ≠ "" := by
    unfold Block.checkTable
    cases b.table with
    | none => simp
    | some name => simp [Text.strip_eq_empty_iff]
  rw [table, Block.check_eq_ok_iff]
  constructor
  · rintro ⟨source, named, distinct, exprs⟩
    obtain ⟨name, given⟩ : ∃ name, b.table = some name :=
      Option.isSome_iff_exists.mp (by simpa [Xor, source?, block] using source)
    exact ⟨⟨name, given, named name given⟩, distinct, exprs⟩
  · rintro ⟨⟨name, given, nonblank⟩, distinct, exprs⟩
    refine ⟨by simp [Xor, source?, block, given], fun name' given' => ?_, distinct, exprs⟩
    obtain rfl := Option.some.inj (given.symm.trans given')
    exact nonblank

theorem wellFormed_derived_iff {catalog : Catalog} {b : Block} {stmt : Statement} :
    (derived b stmt).WellFormed catalog ↔
      b.checkNoTable = .ok () ∧ b.check catalog = .ok () := by
  have table : b.checkNoTable = .ok () ↔ b.table = none := by
    unfold Block.checkNoTable
    cases b.table <;> simp
  rw [table, Block.check_eq_ok_iff]
  constructor
  · rintro ⟨source, -, distinct, exprs⟩
    exact ⟨by simpa [Xor, source?, block] using source, distinct, exprs⟩
  · rintro ⟨none, distinct, exprs⟩
    exact ⟨by simp [Xor, source?, block, none], by simp [block, none], distinct, exprs⟩

/-- **The check accepts exactly the well-formed statements.** Nothing is said of how the rules are
gone through: at every level there is one source, which has a name if it is a table, no name is
selected twice, and at any depth of every expression each `desc` turns a key round, no call holds
another one, and each call has a known function and arguments that it takes. -/
theorem check_iff_wellFormed (catalog : Catalog) (stmt : Statement) :
    stmt.check catalog = .ok () ↔ ∀ level ∈ stmt.levels, level.WellFormed catalog := by
  induction stmt with
  | select b =>
    rw [check_select_eq_ok, levels, List.forall_mem_singleton, wellFormed_select_iff]
  | derived b stmt ih =>
    rw [check_derived_eq_ok, levels, List.forall_mem_cons, ← ih, wellFormed_derived_iff]
    constructor
    · rintro ⟨table, inner, block⟩
      exact ⟨⟨table, block⟩, inner⟩
    · rintro ⟨⟨table, block⟩, inner⟩
      exact ⟨table, inner, block⟩

end Statement

/-- A chain of `desc` orders a rank, and not the row before. -/
example :
    ((Call.mk "ntile" [.desc (.desc (.column "G")), .literal (.int 4)] none).selected
      false).check {} = .ok () ∧
    ((Call.mk "lag" [.desc (.desc (.column "G"))] none).selected false).check {} =
      .error (.misplacedDesc .selectList (.desc (.desc (.column "G")))) :=
  ⟨rfl, rfl⟩

end WindowSql
