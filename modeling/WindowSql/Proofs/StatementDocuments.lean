import WindowSql.Proofs.Outcomes
import WindowSql.Schema.Statement

/-!
# Statements as documents

A statement is read back from the document that is written of it:

* `app_eq_ok`, `andThen_eq_ok`, `required_ok`, `optional_ok`: what a part is put together from when
  it is read;
* `Tag.read`, `expr_eq_ok`: an object is an expression where it is one kind of expression, and
  `kind_of_read` tells the kinds apart;
* `expr_encodeExpr`, `statement_encodeStatement`: reading undoes writing, however deep expressions
  and subqueries are nested;
* `statement_documents`: both, and that nothing changes after a document was read and written once.
-/

namespace WindowSql.Schema

section
variable {α β : Type}

@[simp] theorem within_ok (s : Step) (a : α) : Decoded.within s (.ok a) = .ok a := rfl

@[simp] theorem app_ok (f : α → β) (a : α) : Decoded.app (.ok f) (.ok a) = .ok (f a) := rfl

@[simp] theorem andThen_ok (a : α) : Decoded.andThen (.ok a) (.ok ()) = .ok a := rfl

theorem within_eq_ok {s : Step} {x : Decoded α} {a : α} :
    Decoded.within s x = .ok a ↔ x = .ok a := by
  cases x <;> simp [Decoded.within]

theorem named_eq_ok {model : String} {x : Decoded α} {a : α} :
    x.named model = .ok a ↔ x = .ok a := by
  cases x <;> simp [Decoded.named]

theorem app_eq_ok {f : Decoded (α → β)} {x : Decoded α} {b : β} :
    Decoded.app f x = .ok b ↔ ∃ g, f = .ok g ∧ ∃ a, x = .ok a ∧ g a = b := by
  cases f <;> cases x <;> simp [Decoded.app]

theorem andThen_eq_ok {x : Decoded α} {y : Decoded Unit} {a : α} :
    x.andThen y = .ok a ↔ x = .ok a ∧ y = .ok () := by
  cases x <;> cases y <;> simp [Decoded.andThen]

theorem onlyFields_eq_ok {known : List String} {fields : List (String × Json)} :
    onlyFields known fields = .ok () ↔ ∀ name ∈ fields.map Prod.fst, name ∈ known := by
  unfold onlyFields
  simp only [List.isEmpty_iff, List.filter_eq_nil_iff]
  split
  · rename_i none
    simpa using none
  · rename_i some
    simpa using some

variable {fields : List (String × Json)} {name : String} {decode : Json → Decoded α} {j : Json}
  {a : α}

theorem required_ok (found : fields.lookup name = some j) (read : decode j = .ok a) :
    required fields name decode = .ok a := by
  rw [required, found]
  exact within_eq_ok.mpr read

theorem optional_ok {default : α} (found : fields.lookup name = some j) (read : decode j = .ok a) :
    optional fields name default decode = .ok a := by
  rw [optional, found]
  exact within_eq_ok.mpr read

theorem mem_of_required (h : required fields name decode = .ok a) :
    name ∈ fields.map Prod.fst := by
  cases found : fields.lookup name with
  | none =>
    rw [required, found] at h
    cases h
  | some j =>
    obtain ⟨before, after, rfl, -⟩ := List.lookup_eq_some_iff.mp found
    simp

/-- A list is read back where each of its items is. -/
theorem tupleOf_map {encode : α → Json} {l : List α} (h : ∀ a ∈ l, decode (encode a) = .ok a) :
    tupleOf decode (.arr (l.map encode)) = .ok l := by
  have items (start : Nat) : Decoded.items decode start (l.map encode) = .ok l := by
    induction l generalizing start with
    | nil => rfl
    | cons a rest ih =>
      obtain ⟨first, others⟩ := List.forall_mem_cons.mp h
      rw [List.map_cons, Decoded.items, first, ih others (start + 1)]
      rfl
  exact items 0

theorem nullable_null (decode : Json → Decoded α) : nullable decode .null = .ok none := rfl

theorem nullable_of_ne_null (decode : Json → Decoded α) (h : j ≠ .null) :
    nullable decode j = (decode j).map some := by
  cases j with
  | null => exact absurd rfl h
  | bool | int | float | str | arr | obj => rfl

theorem nullable_ofOption {encode : α → Json} (h : ∀ a, decode (encode a) = .ok a)
    (notNull : ∀ a, encode a ≠ .null) (o : Option α) :
    nullable decode (Json.ofOption encode o) = .ok o := by
  cases o with
  | none => rfl
  | some a =>
    rw [Json.ofOption, nullable_of_ne_null decode (notNull a), h a]
    rfl

end

section
variable {α : Type} {name : String} {at? : List (String × Json) → Option (Decoded α)}
  {decode : Json → Decoded α}

/-- A search for the first field of a name is a look-up. -/
theorem eq_map_lookup (nil : at? [] = none)
    (cons : ∀ n j rest, at? ((n, j) :: rest) =
      if n = name then some (Decoded.within (.field name) (decode j)) else at? rest)
    (fields : List (String × Json)) :
    at? fields = (fields.lookup name).map fun j => Decoded.within (.field name) (decode j) := by
  induction fields with
  | nil => exact nil
  | cons field rest ih =>
    obtain ⟨n, j⟩ := field
    rw [cons]
    by_cases here : n = name
    · subst here
      simp
    · have other : (name == n) = false := by simpa using Ne.symm here
      rw [if_neg here, ih, List.lookup_cons, other]

theorem getD_eq_required {fields : List (String × Json)}
    (h : at? fields = (fields.lookup name).map fun j => Decoded.within (.field name) (decode j)) :
    (at? fields).getD (missing name) = required fields name decode := by
  rw [h, required]
  cases fields.lookup name <;> rfl

theorem getD_eq_optional {fields : List (String × Json)} {default : α}
    (h : at? fields = (fields.lookup name).map fun j => Decoded.within (.field name) (decode j)) :
    (at? fields).getD (.ok default) = optional fields name default decode := by
  rw [h, optional]
  cases fields.lookup name <;> rfl

end

theorem exprs_eq_items (start : Nat) (js : List Json) :
    exprs start js = Decoded.items expr start js := by
  induction js generalizing start with
  | nil => rfl
  | cons j rest ih => rw [exprs, Decoded.items, ih]

theorem tupleOf_expr (js : List Json) : tupleOf expr (.arr js) = exprs 0 js :=
  (exprs_eq_items 0 js).symm

section
variable (name : String) (fields : List (String × Json))

theorem exprAt_eq :
    (exprAt name fields).getD (missing name) = required fields name expr :=
  getD_eq_required (eq_map_lookup rfl (fun _ _ _ => rfl) fields)

theorem exprsAt_eq :
    (exprsAt name fields).getD (.ok []) = optional fields name [] (tupleOf expr) := by
  refine getD_eq_optional (eq_map_lookup rfl (fun n j rest => ?_) fields)
  cases j <;> simp only [tupleOf, ← exprs_eq_items] <;> rfl

theorem orderingAt_eq :
    (orderingAt fields).getD (.ok none) =
      optional fields "order_by" none (nullable (tupleOf expr)) := by
  refine getD_eq_optional (eq_map_lookup rfl (fun n j rest => ?_) fields)
  cases j <;> simp only [nullable, tupleOf, ← exprs_eq_items] <;> rfl

theorem sourceAt_eq :
    (sourceAt name fields).getD (missing name) = required fields name source :=
  getD_eq_required (eq_map_lookup rfl (fun _ _ _ => rfl) fields)

theorem innerAt_eq :
    (innerAt fields).getD (.ok none) = optional fields "subquery" none (nullable statement) := by
  refine getD_eq_optional (eq_map_lookup rfl (fun n j rest => ?_) fields)
  cases j <;> simp only [nullable, statement] <;> rfl

end

namespace Tag

def fields : Tag → List String
  | col => ["col"]
  | value => ["value"]
  | func => ["func", "args", "order_by"]
  | op => ["op", "left", "right"]
  | desc => ["desc"]

def read (given : List (String × Json)) (tag : Tag) : Decoded Expr :=
  Decoded.andThen
    (match tag with
      | col => Decoded.app (.ok Expr.column) (required given "col" text)
      | value => Decoded.app (.ok Expr.literal) (required given "value" literalValue)
      | func =>
        Decoded.app (.ok Expr.call) (required given "func" text)
          |>.app (optional given "args" [] (tupleOf expr))
          |>.app (optional given "order_by" none (nullable (tupleOf expr)))
      | op =>
        Decoded.app (.ok Expr.binary) (required given "op" operator)
          |>.app (required given "left" expr)
          |>.app (required given "right" expr)
      | desc => Decoded.app (.ok Expr.desc) (required given "desc" expr))
    (onlyFields tag.fields given)

/-- The field that tells one kind is no field of another one. -/
theorem eq_of_name_mem_fields {tag tag' : Tag} (h : tag.name ∈ tag'.fields) : tag = tag' := by
  revert h
  cases tag <;> cases tag' <;> decide

end Tag

def kind : Expr → Tag
  | .column _ => .col
  | .literal _ => .value
  | .call .. => .func
  | .binary .. => .op
  | .desc _ => .desc

theorem expr_obj (given : List (String × Json)) :
    expr (.obj given) = match Tag.of? given with
      | none => .fail .untagged
      | some tag => Decoded.within (.field tag.name) (tag.read given) := by
  simp only [expr, exprAt_eq, exprsAt_eq, orderingAt_eq]
  cases Tag.of? given with
  | none => rfl
  | some tag => cases tag <;> rfl

section
variable {given : List (String × Json)} {tag : Tag} {e : Expr}

/-- What is read as a kind of expression is one of that kind, and the object has the field that
tells the kind. -/
theorem kind_of_read (h : tag.read given = .ok e) :
    tag = kind e ∧ tag.name ∈ given.map Prod.fst := by
  obtain ⟨parts, -⟩ := andThen_eq_ok.mp h
  cases tag with
  | col =>
    simp only [app_eq_ok, Except.ok.injEq, exists_eq_left'] at parts
    obtain ⟨name, field, rfl⟩ := parts
    exact ⟨rfl, mem_of_required field⟩
  | value =>
    simp only [app_eq_ok, Except.ok.injEq, exists_eq_left'] at parts
    obtain ⟨v, field, rfl⟩ := parts
    exact ⟨rfl, mem_of_required field⟩
  | func =>
    simp only [app_eq_ok, Except.ok.injEq, exists_eq_left'] at parts
    obtain ⟨_, ⟨_, ⟨func, field, rfl⟩, args, -, rfl⟩, orderBy, -, rfl⟩ := parts
    exact ⟨rfl, mem_of_required field⟩
  | op =>
    simp only [app_eq_ok, Except.ok.injEq, exists_eq_left'] at parts
    obtain ⟨_, ⟨_, ⟨op, field, rfl⟩, left, -, rfl⟩, right, -, rfl⟩ := parts
    exact ⟨rfl, mem_of_required field⟩
  | desc =>
    simp only [app_eq_ok, Except.ok.injEq, exists_eq_left'] at parts
    obtain ⟨inner, field, rfl⟩ := parts
    exact ⟨rfl, mem_of_required field⟩

/-- An object that can be read as a kind of expression is taken for that kind. -/
theorem of?_of_read (h : tag.read given = .ok e) : Tag.of? given = some tag := by
  obtain ⟨-, present⟩ := kind_of_read h
  have known := onlyFields_eq_ok.mp (andThen_eq_ok.mp h).2
  have told (t : Tag) : given.any (·.1 == t.name) = true ↔ t = tag := by
    rw [List.any_eq_true]
    constructor
    · rintro ⟨field, mem, named⟩
      have name : t.name ∈ given.map Prod.fst := by
        rw [← eq_of_beq named]
        exact List.mem_map_of_mem mem
      exact Tag.eq_of_name_mem_fields (known _ name)
    · rintro rfl
      obtain ⟨field, mem, named⟩ := List.mem_map.mp present
      exact ⟨field, mem, by simp [named]⟩
  unfold Tag.of? Tag.all
  cases tag <;> simp [told]

theorem expr_of_read (tag : Tag) (h : tag.read given = .ok e) : expr (.obj given) = .ok e := by
  rw [expr_obj, of?_of_read h]
  exact within_eq_ok.mpr h

/-- An object is an expression where it is one kind of expression. -/
theorem expr_eq_ok : expr (.obj given) = .ok e ↔ ∃ tag : Tag, tag.read given = .ok e := by
  constructor
  · intro h
    rw [expr_obj] at h
    split at h
    · cases h
    · rename_i tag _
      exact ⟨tag, within_eq_ok.mp h⟩
  · rintro ⟨tag, h⟩
    exact expr_of_read tag h

/-- An object that is an expression can be read as the kind of that expression, and as no other
kind. -/
theorem read_iff_of_expr (h : expr (.obj given) = .ok e) (tag : Tag) (e' : Expr) :
    tag.read given = .ok e' ↔ tag = kind e ∧ e' = e := by
  obtain ⟨tag₀, read⟩ := expr_eq_ok.mp h
  obtain ⟨rfl, -⟩ := kind_of_read read
  constructor
  · intro read'
    have same : some tag = some (kind e) := (of?_of_read read').symm.trans (of?_of_read read)
    obtain rfl := Option.some.inj same
    exact ⟨rfl, Except.ok.inj (read'.symm.trans read)⟩
  · rintro ⟨rfl, rfl⟩
    exact read

theorem exists_obj_of_expr {j : Json} (h : expr j = .ok e) : ∃ given, j = .obj given := by
  cases j with
  | obj given => exact ⟨given, rfl⟩
  | null | bool | int | float | str | arr => simp [expr, Decoded.fail] at h

end

/-! ## Reading what is written -/

theorem text_str (s : String) : text (.str s) = .ok s := rfl

theorem truth_bool (b : Bool) : truth (.bool b) = .ok b := rfl

theorem literalValue_encodeLiteral (v : Literal) : literalValue (encodeLiteral v) = .ok v := by
  cases v <;> rfl

theorem operator_name (op : BinaryOp) : operator (.str op.name) = .ok op := by
  cases op <;> rfl

mutual

theorem expr_encodeExpr (e : Expr) : expr (encodeExpr e) = .ok e := by
  cases e with
  | column name => exact expr_of_read .col rfl
  | literal v =>
    apply expr_of_read .value
    rw [Tag.read, required_ok rfl (literalValue_encodeLiteral v)]
    rfl
  | call func args orderBy =>
    have written : tupleOf expr (.arr (encodeExprs args)) = .ok args :=
      (tupleOf_expr _).trans (exprs_encodeExprs args 0)
    cases orderBy with
    | none =>
      apply expr_of_read .func
      rw [Tag.read, required_ok rfl (text_str func), optional_ok rfl written,
        optional_ok rfl (nullable_null _)]
      rfl
    | some keys =>
      have notNull : Json.arr (encodeExprs keys) ≠ .null := nofun
      have ordering : nullable (tupleOf expr) (.arr (encodeExprs keys)) = .ok (some keys) := by
        rw [nullable_of_ne_null _ notNull, tupleOf_expr, exprs_encodeExprs keys 0]
        rfl
      apply expr_of_read .func
      rw [Tag.read, required_ok rfl (text_str func), optional_ok rfl written,
        optional_ok rfl ordering]
      rfl
  | binary op l r =>
    apply expr_of_read .op
    rw [Tag.read, required_ok rfl (operator_name op), required_ok rfl (expr_encodeExpr l),
      required_ok rfl (expr_encodeExpr r)]
    rfl
  | desc e =>
    apply expr_of_read .desc
    rw [Tag.read, required_ok rfl (expr_encodeExpr e)]
    rfl

theorem exprs_encodeExprs (es : List Expr) (start : Nat) :
    exprs start (encodeExprs es) = .ok es := by
  cases es with
  | nil => rfl
  | cons e rest =>
    rw [encodeExprs, exprs, expr_encodeExpr e, exprs_encodeExprs rest (start + 1)]
    rfl

end

theorem encodeExpr_ne_null (e : Expr) : encodeExpr e ≠ .null := by
  intro null
  have read := expr_encodeExpr e
  rw [null] at read
  cases read

theorem selectItem_encodeItem (item : SelectItem) :
    selectItem (encodeItem item) = .ok item := by
  rw [encodeItem, selectItem, required_ok rfl (text_str item.name),
    required_ok rfl (expr_encodeExpr item.expr), optional_ok rfl (truth_bool item.promoted)]
  rfl

/-- A source is read back with what is read of the subquery in it. -/
theorem source_encodeSource (b : Block) (written : Json) {inner : Option Statement}
    (h : nullable statement written = .ok inner) :
    source (encodeSource b written) = .ok ⟨b.table, inner, b.label⟩ := by
  have texts (o : Option String) : nullable text (Json.ofOption .str o) = .ok o :=
    nullable_ofOption text_str (fun _ => Json.noConfusion) o
  rw [encodeSource, source, innerAt_eq, optional_ok rfl (texts b.table), optional_ok rfl h,
    optional_ok rfl (texts b.label)]
  rfl

theorem statement_encodeBlock (b : Block) {written : Json} {src : Source}
    (h : source written = .ok src) :
    statement (encodeBlock b written) =
      .ok (assemble b.items b.selectAll src b.predicate b.isFilter) := by
  have items : tupleOf selectItem (.arr (b.items.map encodeItem)) = .ok b.items :=
    tupleOf_map fun item _ => selectItem_encodeItem item
  have predicate : nullable expr (Json.ofOption encodeExpr b.predicate) = .ok b.predicate :=
    nullable_ofOption expr_encodeExpr encodeExpr_ne_null b.predicate
  rw [encodeBlock, statement]
  simp only [sourceAt_eq]
  rw [optional_ok rfl items, optional_ok rfl (truth_bool b.selectAll), required_ok rfl h,
    optional_ok rfl predicate, optional_ok rfl (truth_bool b.isFilter)]
  rfl

theorem statement_encodeStatement (stmt : Statement) :
    statement (encodeStatement stmt) = .ok stmt := by
  induction stmt with
  | select b =>
    have source := source_encodeSource b .null (nullable_null _)
    rw [encodeStatement, statement_encodeBlock b source]
    rfl
  | derived b s ih =>
    have notNull : encodeStatement s ≠ .null := by
      intro null
      rw [null] at ih
      cases ih
    have inner : nullable statement (encodeStatement s) = .ok (some s) := by
      rw [nullable_of_ne_null _ notNull, ih]
      rfl
    rw [encodeStatement, statement_encodeBlock b (source_encodeSource b _ inner)]
    rfl

/-- **Statements as documents.** Every statement is read back from the document that is written of
it. So the document that is written of any statement that was read is left as it is by reading and
writing it once more. And what is read as an expression is an object that can be read as the kind of
that expression, with that result, and as no other kind. -/
theorem statement_documents :
    (∀ stmt, statement (encodeStatement stmt) = .ok stmt) ∧
    (∀ j written, (statement j).map encodeStatement = .ok written →
      (statement written).map encodeStatement = .ok written) ∧
    ∀ j e, expr j = .ok e → ∃ given, j = .obj given ∧
      ∀ (tag : Tag) e', tag.read given = .ok e' ↔ tag = kind e ∧ e' = e := by
  refine ⟨statement_encodeStatement, ?_, ?_⟩
  · intro j written h
    obtain ⟨stmt, -, rfl⟩ := map_eq_ok.mp h
    rw [statement_encodeStatement]
    rfl
  · intro j e h
    obtain ⟨given, rfl⟩ := exists_obj_of_expr h
    exact ⟨given, rfl, read_iff_of_expr h⟩

def oneFloat : Double := .ofInt 1

/-- The constants 1, 1.0 and true, and a count without an ordering and with an empty one, over a
filter of the years with two or more of something. -/
def likeConstants : Statement :=
  .derived
    { items :=
        [⟨"a", .literal (.int 1), false⟩, ⟨"b", .literal (.float oneFloat), false⟩,
         ⟨"c", .literal (.bool true), true⟩, ⟨"d", .call "n" [] none, false⟩,
         ⟨"e", .call "n" [] (some []), false⟩]
      label := some "t" }
    (.select { table := some "batting", predicate := some (.desc (.column "G")), isFilter := true })

/-- A document that leaves out what it may, and names its source by a text. -/
def shortDocument : Json :=
  .obj [("from_", .str "batting"),
    ("predicate", .obj [("right", .obj [("value", .float oneFloat)]), ("op", .str "=="),
      ("left", .obj [("func", .str "n")])])]

def fullDocument : Json :=
  .obj [("select_list", .arr []), ("select_all", .bool false),
    ("from", .obj [("table", .str "batting"), ("subquery", .null), ("alias", .null)]),
    ("predicate", .obj [("op", .str "=="),
      ("left", .obj [("func", .str "n"), ("args", .arr []), ("order_by", .null)]),
      ("right", .obj [("value", .float oneFloat)])]),
    ("is_filter", .bool false)]

theorem statement_documents_likeConstants :
    statement (encodeStatement likeConstants) = .ok likeConstants ∧
    (statement shortDocument).map encodeStatement = .ok fullDocument ∧
    (statement fullDocument).map encodeStatement = .ok fullDocument ∧
    expr (.obj [("desc", .obj [("col", .str "G")])]) = .ok (.desc (.column "G")) ∧
    Tag.desc.read [("desc", .obj [("col", .str "G")])] = .ok (.desc (.column "G")) ∧
    ∀ e', Tag.col.read [("desc", .obj [("col", .str "G")])] ≠ .ok e' := by
  obtain ⟨back, again, kinds⟩ := statement_documents
  have short : (statement shortDocument).map encodeStatement = .ok fullDocument := rfl
  have key : expr (.obj [("desc", .obj [("col", .str "G")])]) = .ok (.desc (.column "G")) := rfl
  obtain ⟨given, same, read⟩ := kinds _ _ key
  obtain rfl := Json.obj.inj same
  refine ⟨back likeConstants, short, again _ _ short, key, (read .desc _).mpr ⟨rfl, rfl⟩, ?_⟩
  intro e' column
  cases ((read .col e').mp column).1

end WindowSql.Schema
