import WindowSql.Proofs.UniqueReading

/-!
# Quoted names and texts are read back

An engine reads what is quoted up to the closing quote, by rules of its own:

* `QuoteRules.read`: a quote that is doubled stands for one, and after a backslash a character may
  stand for something else;
* `Target.nameRules`, `Target.textRules`: the rules of the engines;
* `inside_doubled`: a quoted part that is doubled where it has to be is read as it was;
* `quoted_read`: so nothing that is written ends before its closing quote or goes on after it.
-/

namespace WindowSql

/-- How an engine reads what is quoted. -/
structure QuoteRules where
  quote : Char
  /-- What a character stands for after a backslash, if that is an escape. -/
  escape? : Option (Char → List Char) := none

namespace QuoteRules

/-- What has been read goes before what is read next. -/
def before (cs : List Char) (p : List Char × List Char) : List Char × List Char := (cs ++ p.1, p.2)

/-- Reads on from an opening quote: what is quoted, and what follows the closing quote. -/
def inside (r : QuoteRules) : List Char → Option (List Char × List Char)
  | [] => none
  | [c] => if c = r.quote then some ([], []) else none
  | c :: c' :: rest =>
    if c = r.quote then
      if c' = r.quote then (r.inside rest).map (before [c]) else some ([], c' :: rest)
    else match if c = '\\' then r.escape? else none with
      | some escape => (r.inside rest).map (before (escape c'))
      | none => (r.inside (c' :: rest)).map (before [c])

def read (r : QuoteRules) (text : String) : Option (String × String) :=
  match text.toList with
  | [] => none
  | c :: rest =>
    if c = r.quote then (r.inside rest).map (Prod.map String.ofList String.ofList) else none

end QuoteRules

namespace Target

/-- Names stand between double quotes, in MySQL between backticks. -/
def nameRules (t : Target) : QuoteRules where
  quote := if t = .mysql then '\x60' else '"'

/-- Texts stand between single quotes, and in MySQL a backslash is an escape. -/
def textRules (t : Target) (escape : Char → List Char) : QuoteRules where
  quote := '\''
  escape? := if t = .mysql then some escape else none

end Target

namespace QuoteRules
variable {r : QuoteRules}

/-- The characters that have to be doubled in what is quoted: the quote, and a backslash that is an
escape, which stands for itself after another one. -/
structure Doubles (r : QuoteRules) (p : Char → Bool) : Prop where
  quote : p r.quote = true
  escaped : ∀ escape ∈ r.escape?, p '\\' = true ∧ escape '\\' = ['\\']
  others : ∀ c, p c = true → c = r.quote ∨ c = '\\' ∧ r.escape?.isSome = true

theorem inside_cons {c : Char} (rest : List Char) (quote : c ≠ r.quote)
    (escape : c = '\\' → r.escape? = none) :
    r.inside (c :: rest) = (r.inside rest).map (before [c]) := by
  have plain : (if c = '\\' then r.escape? else none) = none := by
    split
    · exact escape ‹_›
    · rfl
  cases rest with
  | nil => simp [inside, quote]
  | cons c' rest => simp only [inside, quote, ↓reduceIte, plain]

theorem map_before_append (cs ds : List Char) (p : Option (List Char × List Char)) :
    (p.map (before ds)).map (before cs) = p.map (before (cs ++ ds)) := by
  cases p with
  | none => rfl
  | some p => simp [before]

/-- One character is read as it was. -/
theorem Doubles.inside_once {p : Char → Bool} (h : r.Doubles p) (c : Char) (rest : List Char) :
    r.inside ((if p c then [c, c] else [c]) ++ rest) = (r.inside rest).map (before [c]) := by
  by_cases twice : p c = true
  · rw [if_pos twice]
    rcases h.others c twice with rfl | ⟨rfl, escapes⟩
    · simp [inside]
    · obtain ⟨escape, given⟩ := Option.isSome_iff_exists.mp escapes
      obtain ⟨-, backslash⟩ := h.escaped escape given
      by_cases quote : '\\' = r.quote
      · simp only [List.cons_append, List.nil_append, inside, if_pos quote]
      · simp [inside, quote, given, backslash]
  · rw [if_neg twice, List.singleton_append]
    apply inside_cons
    · rintro rfl
      exact twice h.quote
    · rintro rfl
      by_contra some
      obtain ⟨escape, given⟩ := Option.ne_none_iff_exists'.mp some
      exact twice (h.escaped escape given).1

/-- What is doubled as the rules have it is read as it was, whatever follows. -/
theorem Doubles.inside_doubled {p : Char → Bool} (h : r.Doubles p) (cs rest : List Char) :
    r.inside (doubled p cs ++ rest) = (r.inside rest).map (before cs) := by
  induction cs with
  | nil => cases read : r.inside rest <;> simp [doubled, before, read]
  | cons c cs ih =>
    rw [doubled, List.flatMap_cons, ← doubled, List.append_assoc, h.inside_once, ih,
      map_before_append, List.singleton_append]

/-- A closing quote ends what is quoted, unless another one follows. -/
theorem inside_quote (cs rest : List Char) :
    (r.inside (r.quote :: rest)).map (before cs) = some (cs, rest) ↔
      rest.head? ≠ some r.quote := by
  cases rest with
  | nil => simp [inside, before]
  | cons c rest =>
    by_cases again : c = r.quote
    · subst again
      cases more : r.inside rest with
      | none => simp [inside, more]
      | some p => simp [inside, more, before]
    · simp [inside, again, before]

/-- **What is quoted is read back, and no more.** -/
theorem Doubles.read_eq_some {p : Char → Bool} (h : r.Doubles p) {text x : String}
    (quoted : text.toList = r.quote :: (doubled p x.toList ++ [r.quote])) (rest : String) :
    r.read (text ++ rest) = some (x, rest) ↔ rest.toList.head? ≠ some r.quote := by
  have chars (found : Option (List Char × List Char)) :
      found.map (Prod.map String.ofList String.ofList) = some (x, rest) ↔
        found = some (x.toList, rest.toList) := by
    cases found with
    | none => simp
    | some p => simp [Prod.ext_iff, String.ext_iff]
  have reading : r.read (text ++ rest) =
      ((r.inside (r.quote :: rest.toList)).map (before x.toList)).map
        (Prod.map String.ofList String.ofList) := by
    rw [read, String.toList_append, quoted, List.cons_append, List.append_assoc,
      List.singleton_append]
    simp only [↓reduceIte, h.inside_doubled]
  rw [reading, chars, inside_quote]

end QuoteRules

/-- Doubling some characters and then others, which are none of them, is doubling all at once. -/
theorem doubled_doubled {p q : Char → Bool} (apart : ∀ c, q c = true → p c = false)
    (cs : List Char) : doubled p (doubled q cs) = doubled (fun c => p c || q c) cs := by
  unfold doubled
  rw [List.flatMap_assoc]
  congr 1
  funext c
  by_cases second : q c = true
  · simp [second, apart c second]
  · simp [second]

/-- In MySQL the backslashes of a text are doubled, and then its quotes. -/
theorem Dialect.textLiteral_mysql (s : String) :
    (Dialect.mysql.textLiteral s).toList =
      '\'' :: (doubled (· == '\'') (doubled (· == '\\') s.toList) ++ ['\'']) := by
  rw [toList_textLiteral, doubled_doubled]
  · rfl
  · intro c backslash
    rw [beq_iff_eq.mp backslash]
    rfl

namespace Target
variable (t : Target)

theorem dialect_quotes :
    t.dialect.openQuote = t.nameRules.quote ∧ t.dialect.closeQuote = t.nameRules.quote ∧
      t.dialect.doublesQuote = true := by
  cases t <;> decide

theorem doubles_name :
    t.nameRules.Doubles fun c => t.dialect.doublesQuote && c == t.dialect.closeQuote := by
  obtain ⟨-, closing, doubles⟩ := t.dialect_quotes
  rw [closing, doubles]
  constructor
  · simp
  · intro escape none
    cases none
  · intro c quote
    exact .inl (by simpa using quote)

theorem doubles_text {escape : Char → List Char} (backslash : escape '\\' = ['\\']) :
    (t.textRules escape).Doubles
      fun c => c == '\'' || (t.dialect.escapesBackslash && c == '\\') := by
  have escapes : t.dialect.escapesBackslash = (t.textRules escape).escape?.isSome := by
    cases t <;> rfl
  constructor
  · rfl
  · intro given some
    obtain ⟨rfl, rfl⟩ : t = .mysql ∧ escape = given := by simpa [textRules] using some
    exact ⟨rfl, backslash⟩
  · intro c twice
    rw [escapes] at twice
    show c = '\'' ∨ _
    simpa [and_comm] using twice

/-- **What is quoted ends where it was closed.** A text that is written as a constant and a name
that is written between quotes are read back by the rules of the engine, whatever else a backslash
may stand for, and all that follows is left; unless that begins with another closing quote. -/
theorem quoted_read {escape : Char → List Char} (backslash : escape '\\' = ['\\'])
    (x rest : String) :
    (∃ text, (∀ l, t.dialect.literal l (.str x) = .ok text) ∧
      ((t.textRules escape).read (text ++ rest) = some (x, rest) ↔
        rest.toList.head? ≠ some '\'')) ∧
    (t.nameRules.read (t.dialect.quote x ++ rest) = some (x, rest) ↔
      rest.toList.head? ≠ some t.nameRules.quote) := by
  constructor
  · exact ⟨t.dialect.textLiteral x, fun _ => rfl,
      (t.doubles_text backslash).read_eq_some (t.dialect.toList_textLiteral x) rest⟩
  · apply t.doubles_name.read_eq_some _ rest
    obtain ⟨opening, closing, -⟩ := t.dialect_quotes
    rw [t.dialect.toList_quote, opening, closing]

def mysqlEscape : Char → List Char
  | '0' => ['\x00']
  | 'b' => ['\x08']
  | 'n' => ['\n']
  | 'r' => ['\r']
  | 't' => ['\t']
  | 'Z' => ['\x1a']
  | '%' => ['\\', '%']
  | '_' => ['\\', '_']
  | c => [c]

/-- Quotes and backslashes, one of them before the closing quote. -/
def quotes : String := "\\'\"\x60' OR 1 = 1 -- \\"

theorem quoted_read_mysql :
    (∃ text, (∀ l, Dialect.mysql.literal l (.str quotes) = .ok text) ∧
      (mysql.textRules mysqlEscape).read (text ++ " AND") = some (quotes, " AND")) ∧
    mysql.nameRules.read (Dialect.mysql.quote quotes ++ ".") = some (quotes, ".") := by
  have backslash : mysqlEscape '\\' = ['\\'] := rfl
  constructor
  · obtain ⟨text, written, read⟩ := (quoted_read mysql backslash quotes " AND").1
    exact ⟨text, written, read.mpr (by decide)⟩
  · apply (quoted_read mysql backslash quotes ".").2.mpr
    decide

end Target

end WindowSql
