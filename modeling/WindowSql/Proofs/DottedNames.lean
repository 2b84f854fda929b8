import WindowSql.Proofs.Compilation
import WindowSql.Statement.Text

/-!
# Dotted names

A name is taken apart at its last dot where its qualifier is looked at, and at its first dot where
it is written:

* `qualified_dotted`, `reference_dotted`: the two ways of taking a name apart;
* `quote_dotted_ne`: a dot between quotes is not a dot between two quoted parts;
* `reference_eq_quote_iff`: a name is written as one quoted part exactly where it has no dot;
* `table_column_written_iff`: a column of a table is written as one exactly where the name of the
  table has no dot.
-/

namespace WindowSql

namespace Text

theorem splitLastDot?_of_plain {cs : List Char} (plain : '.' ∉ cs) : splitLastDot? cs = none := by
  induction cs with
  | nil => rfl
  | cons c cs ih =>
    rw [List.mem_cons, not_or] at plain
    rw [splitLastDot?, ih plain.2]
    exact if_neg (Ne.symm plain.1)

theorem splitLastDot?_append {after : List Char} (plain : '.' ∉ after) (before : List Char) :
    splitLastDot? (before ++ '.' :: after) = some (before, after) := by
  induction before with
  | nil =>
    rw [List.nil_append, splitLastDot?, splitLastDot?_of_plain plain]
    rfl
  | cons c before ih => rw [List.cons_append, splitLastDot?, ih]

theorem splitFirstDot?_of_plain {cs : List Char} (plain : '.' ∉ cs) : splitFirstDot? cs = none := by
  induction cs with
  | nil => rfl
  | cons c cs ih =>
    rw [List.mem_cons, not_or] at plain
    rw [splitFirstDot?, if_neg (Ne.symm plain.1), ih plain.2]
    rfl

theorem splitFirstDot?_append {before : List Char} (plain : '.' ∉ before) (after : List Char) :
    splitFirstDot? (before ++ '.' :: after) = some (before, after) := by
  induction before with
  | nil => rfl
  | cons c before ih =>
    rw [List.mem_cons, not_or] at plain
    rw [List.cons_append, splitFirstDot?, if_neg (Ne.symm plain.1), ih plain.2]
    rfl

theorem toList_dotted (before after : String) :
    (before ++ "." ++ after).toList = before.toList ++ '.' :: after.toList := by
  simp

theorem dotted_assoc (before between after : String) :
    before ++ "." ++ between ++ "." ++ after = before ++ "." ++ (between ++ "." ++ after) := by
  simp only [String.append_assoc]

theorem qualified_dotted {column : String} (plain : '.' ∉ column.toList) (table : String) :
    qualified (table ++ "." ++ column) = ⟨table, column⟩ := by
  simp [qualified, splitLastDot?_append plain]

/-- A name with a dot, at its first one. -/
theorem exists_first_dot {name : String} (dot : '.' ∈ name.toList) :
    ∃ before after, '.' ∉ before.toList ∧ name = before ++ "." ++ after := by
  obtain ⟨before, after, split, plain⟩ := List.eq_append_cons_of_mem dot
  refine ⟨String.ofList before, String.ofList after, by simpa using plain, ?_⟩
  apply String.toList_inj.mp
  rw [toList_dotted, split, String.toList_ofList, String.toList_ofList]

/-- A name with a dot, at its last one. -/
theorem exists_last_dot {name : String} (dot : '.' ∈ name.toList) :
    ∃ before after, '.' ∉ after.toList ∧ name = before ++ "." ++ after := by
  obtain ⟨after, before, split, plain⟩ := List.eq_append_cons_of_mem (List.mem_reverse.mpr dot)
  refine ⟨String.ofList before.reverse, String.ofList after.reverse, by simpa using plain, ?_⟩
  apply String.toList_inj.mp
  rw [toList_dotted, ← List.reverse_reverse name.toList, split]
  simp

end Text

namespace Dialect

theorem reference_of_plain (d : Dialect) {name : String} (plain : '.' ∉ name.toList) :
    d.reference name = d.quote name := by
  rw [reference, Text.splitFirstDot?_of_plain plain]

theorem reference_dotted (d : Dialect) {before : String} (plain : '.' ∉ before.toList)
    (after : String) :
    d.reference (before ++ "." ++ after) = d.quote before ++ "." ++ d.quote after := by
  rw [reference, Text.toList_dotted, Text.splitFirstDot?_append plain]
  simp only [String.ofList_toList]

/-- A dot between quotes is written once, or twice where it is the closing quote. -/
theorem length_quote_dotted (d : Dialect) (before after : String) :
    (d.quote (before ++ "." ++ after)).length + 1 =
        (d.quote before).length + (d.quote after).length ∨
      (d.quote (before ++ "." ++ after)).length =
        (d.quote before).length + (d.quote after).length := by
  have dot (p : Char → Bool) : (doubled p ['.']).length = 1 ∨ (doubled p ['.']).length = 2 := by
    rw [doubled, List.flatMap_singleton]
    split
    · exact .inr rfl
    · exact .inl rfl
  have room := dot fun c => d.doublesQuote && c == d.closeQuote
  have point : ".".toList = ['.'] := rfl
  simp only [quote, String.toList_append, String.length_ofList, List.length_append,
    List.length_cons, List.length_nil, doubled, List.flatMap_append, point] at room ⊢
  omega

theorem two_le_length_quote (d : Dialect) (name : String) : 2 ≤ (d.quote name).length := by
  simp only [quote, String.length_ofList, List.length_append, List.length_cons, List.length_nil]
  omega

/-- Two quoted parts with a dot between them are no one quoted name. -/
theorem quote_dotted_ne (d : Dialect) (before after : String) :
    d.quote (before ++ "." ++ after) ≠ d.quote before ++ "." ++ d.quote after := by
  intro eq
  have room := d.length_quote_dotted before after
  have point : ".".length = 1 := rfl
  rw [eq, String.length_append, String.length_append, point] at room
  omega

/-- A name is another one than what follows a dot in it. -/
theorem quote_column_ne (d : Dialect) (table column : String) :
    d.quote column ≠ d.quote (table ++ "." ++ column) := by
  intro eq
  have room := d.length_quote_dotted table column
  have quotes := d.two_le_length_quote table
  rw [← eq] at room
  omega

/-- A name is written as one quoted part exactly where it has no dot. -/
theorem reference_eq_quote_iff (d : Dialect) (name : String) :
    d.reference name = d.quote name ↔ '.' ∉ name.toList := by
  constructor
  · intro one dot
    obtain ⟨before, after, plain, rfl⟩ := Text.exists_first_dot dot
    rw [d.reference_dotted plain] at one
    exact d.quote_dotted_ne before after one.symm
  · exact d.reference_of_plain

/-- A column of a table, and the table with the column behind it. -/
theorem reference_column_eq_iff (d : Dialect) (table column : String) :
    d.reference (table ++ "." ++ column) = d.reference table ++ "." ++ d.quote column ↔
      '.' ∉ table.toList := by
  constructor
  · intro same dot
    obtain ⟨before, after, plain, rfl⟩ := Text.exists_first_dot dot
    rw [Text.dotted_assoc, d.reference_dotted plain, d.reference_dotted plain] at same
    simp only [String.append_assoc, String.append_right_inj] at same
    apply d.quote_dotted_ne after column
    simpa only [String.append_assoc] using same
  · intro plain
    rw [d.reference_dotted plain, d.reference_of_plain plain]

end Dialect

theorem Expr.unqualify_dotted {qualifiers : List String} {table column : String}
    (plain : '.' ∉ column.toList) (named : table ≠ "") (qualifies : table ∈ qualifiers) :
    (Expr.column (table ++ "." ++ column)).unqualify qualifiers = .column column := by
  simp [Expr.unqualify, Text.qualified_dotted plain, named, qualifies]

theorem Statement.checkColumn_dotted {b inner : Block} {table column : String}
    (plain : '.' ∉ column.toList) :
    checkColumn b inner (table ++ "." ++ column) = .ok () ↔
      (table = "" ∨ some table = b.label) ∧ (inner.isExplicit = true → column ∈ inner.names) := by
  have read := Text.qualified_dotted plain table
  rw [checkColumn_eq_ok]
  constructor
  · intro sees
    have qualifier := sees.qualifier
    have listed := sees.listed
    rw [read] at qualifier listed
    exact ⟨qualifier, listed⟩
  · rintro ⟨qualifier, listed⟩
    exact ⟨by rwa [read], by rwa [read]⟩

theorem Block.table_mem_qualifiers {b : Block} {table : String} (reads : b.table = some table)
    (named : table ≠ "") : table ∈ b.qualifiers := by
  simp [Block.qualifiers, reads, named]

namespace Setting

/-- A table in FROM is written as it is referred to, before its label. -/
theorem exists_tableText (s : Setting) {b : Block} {table : String} (reads : b.table = some table)
    (named : table ≠ "") :
    ∃ label, s.tableText b = .ok (s.dialect.reference table ++ label) ∧
      (b.label = none → label = "") := by
  have present : table.isEmpty = false := by simpa using named
  unfold tableText
  rw [reads]
  simp only [present]
  cases b.label with
  | none => exact ⟨"", by simp, fun _ => rfl⟩
  | some l =>
    by_cases empty : l.isEmpty = true
    · exact ⟨"", by simp [empty], nofun⟩
    · exact ⟨" AS " ++ s.dialect.quote l, by simp [empty, String.append_assoc], nofun⟩

/-- **Columns of a table with a dotted name.** A column that is qualified by a table is read as
that column of that table, by a promotion of a block over the table and by the check of outer
blocks. It is written as the table is in FROM with the quoted column behind it exactly where the
name of the table has no dot; else what follows the first dot is written as one column. -/
theorem table_column_written_iff (s : Setting) (inWindow : Bool) (table : String) {column : String}
    (plain : '.' ∉ column.toList) :
    (∃ text, s.text inWindow (.column (table ++ "." ++ column)) = .ok text ∧
      (text = s.dialect.reference table ++ "." ++ s.dialect.quote column ↔
        '.' ∉ table.toList) ∧
      ∀ before after, '.' ∉ before.toList → table = before ++ "." ++ after →
        text = s.dialect.quote before ++ "." ++ s.dialect.quote (after ++ "." ++ column)) ∧
    (∀ b : Block, b.table = some table → table ≠ "" →
      (Expr.column (table ++ "." ++ column)).unqualify b.qualifiers = .column column ∧
      ∃ label, s.tableText b = .ok (s.dialect.reference table ++ label) ∧
        (b.label = none → label = "")) ∧
    ∀ b inner : Block, Statement.checkColumn b inner (table ++ "." ++ column) = .ok () ↔
      (table = "" ∨ some table = b.label) ∧
        (inner.isExplicit = true → column ∈ inner.names) := by
  refine ⟨?_, ?_, fun b inner => Statement.checkColumn_dotted plain⟩
  · refine ⟨_, rfl, s.dialect.reference_column_eq_iff table column, ?_⟩
    rintro before after first rfl
    rw [Text.dotted_assoc, s.dialect.reference_dotted first]
  · intro b reads named
    have qualifies := Block.table_mem_qualifiers reads named
    exact ⟨Expr.unqualify_dotted plain named qualifies, s.exists_tableText reads named⟩

end Setting

theorem table_column_written_iff_batting :
    '.' ∉ "G".toList ∧
    ∃ text, Setting.postgres.text false (.column "batting.G") = .ok text ∧
      text = Setting.postgres.dialect.reference "batting" ++ "." ++
        Setting.postgres.dialect.quote "G" := by
  have plain : '.' ∉ "G".toList := by decide
  have undotted : '.' ∉ "batting".toList := by decide
  obtain ⟨⟨text, written, iff, -⟩, -⟩ :=
    Setting.postgres.table_column_written_iff false "batting" plain
  exact ⟨plain, text, written, iff.mpr undotted⟩

/-- A column of a table in a schema is written as a column of the schema. -/
theorem schema_column_written :
    '.' ∉ "G".toList ∧
    Setting.postgres.tableText { table := some "lahman.batting" } =
      .ok "\"lahman\".\"batting\"" ∧
    Setting.postgres.text false (.column ("lahman.batting" ++ "." ++ "G")) =
      .ok "\"lahman\".\"batting.G\"" ∧
    "\"lahman\".\"batting.G\"" ≠
      "\"lahman\".\"batting\"" ++ "." ++ Setting.postgres.dialect.quote "G" :=
  ⟨by decide, rfl, rfl, by decide⟩

end WindowSql
