import WindowSql.Proofs.QuotedReading
import WindowSql.Proofs.ReportedErrors
import WindowSql.Proofs.WellFormed

/-!
# Constants as tokens

Whether a constant is written as one constant of SQL:

* `NumberToken`: a sign or none, digits, a fraction or none, an exponent or none;
* `Target.Token`: the words, texts and numbers that an engine reads as constants;
* `unsigned_decimal`, `Double.numberToken_text`: a decimal is written as a number, and so is every
  number that is finite;
* `not_token_word`: the words for the others are no constants;
* `constants_written`: so the constants of compiled documents that are written as such are those
  that are finite, and every constant that has a text stands in one.
-/

namespace WindowSql

structure Digits (cs : List Char) : Prop where
  nonempty : cs ≠ []
  digit : ∀ c ∈ cs, c.isDigit = true

inductive Fraction : List Char → Prop where
  | none : Fraction []
  | point {ds : List Char} (digits : Digits ds) : Fraction ('.' :: ds)

/-- Nothing, or the mark of an exponent, its sign, and digits. -/
inductive Exponent : List Char → Prop where
  | none : Exponent []
  | signed {sign : Char} {ds : List Char} (sign_mem : sign ∈ ['+', '-']) (digits : Digits ds) :
    Exponent ('e' :: sign :: ds)

inductive UnsignedToken : List Char → Prop where
  | parts {whole fraction exponent : List Char} (digits : Digits whole)
    (fractional : Fraction fraction) (exponential : Exponent exponent) :
    UnsignedToken (whole ++ fraction ++ exponent)

inductive NumberToken : List Char → Prop where
  | unsigned {cs : List Char} (h : UnsignedToken cs) : NumberToken cs
  | negative {cs : List Char} (h : UnsignedToken cs) : NumberToken ('-' :: cs)

namespace Digits

theorem toDigits (n : Nat) : Digits (Nat.toDigits 10 n) :=
  ⟨Nat.toDigits_ne_nil, fun _ => Nat.isDigit_of_mem_toDigits (by decide) (by decide)⟩

theorem singleton {d : Char} (digit : d.isDigit = true) : Digits [d] :=
  ⟨List.cons_ne_nil _ _, List.forall_mem_singleton.mpr digit⟩

theorem zero : Digits ['0'] := .singleton rfl

/-- Some of the digits and zeros are digits, if there are any. -/
theorem padded {ds cs : List Char} (h : Digits ds) (nonempty : cs ≠ [])
    (chars : ∀ c ∈ cs, c = '0' ∨ c ∈ ds) : Digits cs := by
  refine ⟨nonempty, ?_⟩
  intro c mem
  rcases chars c mem with rfl | given
  · rfl
  · exact h.digit c given

theorem zeros_append {ds : List Char} (h : Digits ds) (n : Nat) :
    Digits (NumberLayout.zeros n ++ ds) := by
  apply h.padded (List.append_ne_nil_of_right_ne_nil _ h.nonempty)
  intro c mem
  exact (List.mem_append.mp mem).imp_left List.eq_of_mem_replicate

theorem append_zeros {ds : List Char} (h : Digits ds) (n : Nat) :
    Digits (ds ++ NumberLayout.zeros n) := by
  apply h.padded (List.append_ne_nil_of_left_ne_nil h.nonempty _)
  intro c mem
  exact (List.mem_append.mp mem).symm.imp_left List.eq_of_mem_replicate

theorem head {ds : List Char} (h : Digits ds) : ∃ d rest, ds = d :: rest ∧ d.isDigit = true := by
  obtain ⟨d, rest, rfl⟩ := List.exists_cons_of_ne_nil h.nonempty
  exact ⟨d, rest, rfl, h.digit d List.mem_cons_self⟩

end Digits

theorem UnsignedToken.head {cs : List Char} (h : UnsignedToken cs) :
    ∃ d rest, cs = d :: rest ∧ d.isDigit = true := by
  obtain ⟨digits, -, -⟩ := h
  obtain ⟨d, rest, rfl, digit⟩ := digits.head
  exact ⟨d, _, rfl, digit⟩

theorem UnsignedToken.whole {cs : List Char} (h : Digits cs) : UnsignedToken cs := by
  have parts := UnsignedToken.parts h .none .none
  rwa [List.append_nil, List.append_nil] at parts

theorem UnsignedToken.point {whole ds : List Char} (h : Digits whole) (digits : Digits ds) :
    UnsignedToken (whole ++ '.' :: ds) := by
  have parts := UnsignedToken.parts h (.point digits) .none
  rwa [List.append_nil] at parts

namespace NumberLayout

theorem exponent_exponent (layout : NumberLayout) (e : Int) : Exponent (layout.exponent e) := by
  have sign : (if e < 0 then '-' else '+') ∈ ['+', '-'] := by
    split <;> decide
  exact .signed sign ((Digits.toDigits e.natAbs).zeros_append _)

theorem unsigned_scientific (layout : NumberLayout) {digits : List Char} (h : Digits digits)
    (e : Int) : UnsignedToken (layout.scientific digits e) := by
  have exponential := layout.exponent_exponent e
  match digits, h with
  | [], h => exact absurd rfl h.nonempty
  | [d], h =>
    have parts := UnsignedToken.parts h .none exponential
    rwa [List.append_nil] at parts
  | d :: d' :: rest, h =>
    have first : Digits [d] := .singleton (h.digit d List.mem_cons_self)
    have others : Digits (d' :: rest) :=
      ⟨List.cons_ne_nil _ _, fun c mem => h.digit c (List.mem_cons_of_mem _ mem)⟩
    exact .parts first (.point others) exponential

theorem unsigned_positional {digits : List Char} (h : Digits digits) (point : Int) :
    UnsignedToken (positional digits point) := by
  unfold positional
  by_cases small : point ≤ 0
  · rw [if_pos small]
    exact .point .zero (h.zeros_append _)
  rw [if_neg small]
  by_cases inside : point.toNat < digits.length
  · rw [if_pos inside]
    apply UnsignedToken.point
    · have before : digits.take point.toNat ≠ [] := by
        rw [Ne, List.take_eq_nil_iff, not_or]
        exact ⟨by omega, h.nonempty⟩
      exact h.padded before fun c mem => .inr (List.mem_of_mem_take mem)
    · have after : digits.drop point.toNat ≠ [] := by
        rw [Ne, List.drop_eq_nil_iff]
        omega
      exact h.padded after fun c mem => .inr (List.mem_of_mem_drop mem)
  · rw [if_neg inside]
    exact .point (h.append_zeros _) .zero

/-- A decimal is written as a number, in any layout. -/
theorem unsigned_decimal (layout : NumberLayout) (d : Decimal) :
    UnsignedToken (layout.decimal d) := by
  have digits := Digits.toDigits d.digits
  unfold decimal
  dsimp only
  split
  · exact layout.unsigned_scientific digits _
  · exact unsigned_positional digits _

end NumberLayout

/-- An integer is written as a number. -/
theorem numberToken_toString (i : Int) : NumberToken (toString i).toList := by
  rw [Int.toString_eq_repr, Int.repr_eq_if]
  split
  · rw [Nat.toList_repr]
    exact .unsigned (.whole (.toDigits _))
  · rw [String.toList_append, Nat.toList_repr]
    exact .negative (.whole (.toDigits _))

/-- A finite number is written as a number. -/
theorem Double.numberToken_text (negative : Bool) (e : Fin 2047) (f : Fin fractions) :
    NumberToken (finite negative e f).text.toList := by
  have magnitude : UnsignedToken (magnitudeChars .standard e f) := by
    unfold magnitudeChars
    dsimp only
    split
    · exact .point .zero .zero
    · exact NumberLayout.unsigned_decimal _ _
  rw [toList_text]
  cases negative with
  | false => exact .unsigned magnitude
  | true => exact .negative magnitude

/-- Constants that engines have: all but the numbers that are infinite or none. -/
def Literal.isFinite : Literal → Bool
  | .float .nan | .float (.infinite _) => false
  | _ => true

/-- What an engine reads as one constant. Truth values are words, but in SQLite they are integers;
a text is what is read up to its closing quote with nothing left, whatever else a backslash may
stand for. -/
inductive Target.Token (t : Target) : String → Prop where
  | null : Token t "NULL"
  | word (other : t ≠ .sqlite) (b : Bool) : Token t (if b then "TRUE" else "FALSE")
  | bit (sqlite : t = .sqlite) (b : Bool) : Token t (if b then "1" else "0")
  | text {w : String} (x : String) (read : ∀ escape : Char → List Char, escape '\\' = ['\\'] →
      (t.textRules escape).read w = some (x, "")) : Token t w
  | number {w : String} (number : NumberToken w.toList) : Token t w

namespace Target
variable (t : Target)

theorem token_spelling {v : Literal} (finite : v.isFinite = true) :
    t.Token (t.dialect.spelling v) := by
  cases v with
  | null => exact .null
  | bool b =>
    cases t with
    | sqlite => exact .bit rfl b
    | postgres | mysql | duckdb => exact .word (by decide) b
  | int i => exact .number (numberToken_toString i)
  | float x =>
    cases x with
    | nan | infinite => cases finite
    | finite negative e f => exact .number (Double.numberToken_text negative e f)
  | str s =>
    refine .text s fun escape backslash => ?_
    have read := (t.doubles_text backslash).read_eq_some (t.dialect.toList_textLiteral s) ""
    rw [String.append_empty] at read
    exact read.mpr nofun

/-- The words for numbers that are infinite or none are no constants. -/
theorem not_token_word {w : String} (word : w ∈ ["nan", "inf", "-inf"]) : ¬t.Token w := by
  simp only [List.mem_cons, List.not_mem_nil, or_false] at word
  intro token
  cases token with
  | null => rcases word with h | h | h <;> exact absurd h (by decide)
  | word other b => cases b <;> rcases word with h | h | h <;> exact absurd h (by decide)
  | bit sqlite b => cases b <;> rcases word with h | h | h <;> exact absurd h (by decide)
  | text x read =>
    -- a text begins with a quote
    have none := read (fun c => [c]) rfl
    rcases word with rfl | rfl | rfl <;> cases none
  | number number =>
    -- a number begins with a digit, behind its sign
    have letter {c : Char} {rest : List Char} (other : c.isDigit = false) :
        ¬UnsignedToken (c :: rest) := by
      intro h
      obtain ⟨d, rest', same, digit⟩ := h.head
      obtain ⟨rfl, -⟩ := List.cons.inj same
      rw [other] at digit
      cases digit
    generalize chars : w.toList = cs at number
    rcases word with rfl | rfl | rfl <;> subst chars <;> cases number <;>
      exact letter rfl ‹_›

end Target

theorem Literal.exists_word {v : Literal} (other : v.isFinite = false) (d : Dialect) :
    d.spelling v ∈ ["nan", "inf", "-inf"] := by
  cases v with
  | null | bool | int | str => cases other
  | float x =>
    cases x with
    | finite negative e f => cases other
    | nan => exact List.mem_cons_self
    | infinite negative =>
      cases negative with
      | false => exact List.mem_cons_of_mem _ List.mem_cons_self
      | true => exact List.mem_cons_of_mem _ (List.mem_cons_of_mem _ List.mem_cons_self)

/-- A constant that stands in an expression is one of its constants. -/
theorem Expr.Stands.mem_literals {role role' : Role} {e : Expr} {v : Literal}
    (h : Stands role e role' (.literal v)) : v ∈ e.literals := by
  generalize given : Expr.literal v = x at h
  induction h with
  | here =>
    subst given
    exact List.mem_singleton_self v
  | left _ ih => exact List.mem_append_left _ (ih given)
  | right _ ih => exact List.mem_append_right _ (ih given)
  | chain _ ih => exact ih given
  | @argument _ _ func args orderBy _ a _ mem _ ih =>
    have argument : a ∈ args ++ (Call.mk func args orderBy).keys :=
      List.mem_append_left _ (List.mem_of_getElem? mem)
    exact (mem_literals_call (c := ⟨func, args, orderBy⟩)).mpr ⟨a, argument, ih given⟩
  | @key _ _ func args orderBy k _ mem _ ih =>
    have key : k ∈ args ++ (Call.mk func args orderBy).keys := List.mem_append_right _ mem
    exact (mem_literals_call (c := ⟨func, args, orderBy⟩)).mpr ⟨k, key, ih given⟩

namespace Setting

/-- A constant that stands in a statement, at any level and at any depth, whose document is
compiled; the document may have been read from a text. -/
def Admits (s : Setting) (text : Option String) (document : Json) (v : Literal) : Prop :=
  (∀ t ∈ text, Json.read s.limits t = .ok document) ∧
  ∃ stmt c, (Schema.statement document).named Schema.statementModel = .ok stmt ∧
    s.compileRead text document = .ok c ∧
    ∃ b ∈ stmt.blocks, ∃ e ∈ b.exprs, ∃ role, Expr.Stands .whole e role (.literal v)

/-- Every constant that has a text can be selected. -/
theorem admits_selectConstant {s : Setting} {ordering : List String}
    (described : s.context.describeOrder s.limits = .ok ordering) {v : Literal}
    (admitted : v.Admitted s.limits) :
    s.Admits none (Schema.encodeStatement (selectConstant v)) v := by
  have shown : s.dialect.literal s.limits v = .ok (s.dialect.spelling v) :=
    Dialect.literal_eq_ok.mpr ⟨admitted, rfl⟩
  obtain ⟨c, compiled⟩ : ∃ c, s.compile (selectConstant v) = .ok c := by
    obtain ⟨write, selected⟩ := compile_selectConstant described v
    rw [selected, shown]
    exact ⟨_, rfl⟩
  refine ⟨nofun, selectConstant v, c, ?_, ?_, ?_⟩
  · rw [Schema.statement_encodeStatement]
    rfl
  · have document := s.compileDocument_encodeStatement (selectConstant v)
    rw [compiled] at document
    exact document
  · exact ⟨_, List.mem_singleton_self _, _, List.mem_singleton_self _, _, .here⟩

/-- **Constants of compiled documents.** A constant of a document that is compiled has a text unless
it is an integer that is too long, and none of a text is. It is written as one constant of SQL
exactly where it is no number that is infinite or none; these are written as words. If the ordering
of the context can be shown, every constant that has a text, and so each of these, stands in a
document that is compiled. -/
theorem constants_written (t : Target) {s : Setting} (dialect : s.dialect = t.dialect) :
    (∀ text document v, s.Admits text document v →
      ((∃ w, ∀ call, Expr.sql s.limits s.dialect call (.literal v) = .ok w) ↔
        v.Admitted s.limits) ∧
      (text.isSome = true → v.Admitted s.limits) ∧
      ∀ call w, Expr.sql s.limits s.dialect call (.literal v) = .ok w →
        (t.Token w ↔ v.isFinite = true) ∧ (v.isFinite = false → w ∈ ["nan", "inf", "-inf"])) ∧
    ((∃ ordering, s.context.describeOrder s.limits = .ok ordering) →
      ∀ v, v.Admitted s.limits → ∃ document, s.Admits none document v) := by
  have written (v : Literal) (call : Call → Except Failure String) (w : String) :
      Expr.sql s.limits s.dialect call (.literal v) = .ok w ↔
        v.Admitted s.limits ∧ s.dialect.spelling v = w := by
    rw [Expr.sql, LongInteger.lift_eq_ok, Dialect.literal_eq_ok]
  constructor
  · rintro text document v ⟨read, stmt, c, decoded, -, b, hb, e, he, role, stands⟩
    refine ⟨⟨?_, ?_⟩, ?_, ?_⟩
    · rintro ⟨w, shown⟩
      exact ((written v _ w).mp (shown fun _ => .ok "")).1
    · exact fun admitted => ⟨_, fun call => (written v call _).mpr ⟨admitted, rfl⟩⟩
    · intro given
      obtain ⟨t, rfl⟩ := Option.isSome_iff_exists.mp given
      have shown := Statement.admitted_of_read (read t rfl) (Schema.named_eq_ok.mp decoded)
      exact shown b hb e he v stands.mem_literals
    · intro call w shown
      obtain ⟨-, rfl⟩ := (written v call w).mp shown
      refine ⟨?_, fun other => v.exists_word other _⟩
      rw [dialect]
      constructor
      · intro token
        by_contra other
        rw [Bool.not_eq_true] at other
        exact t.not_token_word (v.exists_word other _) token
      · exact t.token_spelling
  · rintro ⟨ordering, described⟩ v admitted
    exact ⟨_, admits_selectConstant described admitted⟩

/-- A text with a quote in it is one constant. -/
theorem constants_written_text :
    postgres.dialect = Target.postgres.dialect ∧
    ∃ document, postgres.Admits none document (.str "it's") ∧
      postgres.text false (.literal (.str "it's")) = .ok "'it''s'" ∧
      Target.postgres.Token "'it''s'" := by
  have dialect : postgres.dialect = Target.postgres.dialect := rfl
  obtain ⟨written, stands⟩ := constants_written .postgres dialect
  obtain ⟨document, admits⟩ := stands ⟨[], rfl⟩ (.str "it's") trivial
  obtain ⟨-, -, token⟩ := written none document _ admits
  have here : postgres.text false (.literal (.str "it's")) = .ok "'it''s'" := rfl
  exact ⟨dialect, document, admits, here, (token (fun _ => .ok "") _ here).1.mpr rfl⟩

/-- A number that is none is read, and a document that selects it is compiled to a column `nan`;
numbers that are infinite are read too, also where they are only too large. -/
theorem number_written_as_word :
    (Json.readScalar postgres.limits "NaN".toList).map (·.1) = .ok (.float .nan, []) ∧
    (Json.readScalar postgres.limits "-Infinity".toList).map (·.1) =
      .ok (.float (.infinite true), []) ∧
    (Json.readScalar postgres.limits "1e401".toList).map (·.1) =
      .ok (.float (.infinite false), []) ∧
    (∃ c, postgres.compileDocument
        (.obj [("select_list", .arr [.obj [("alias", .str "x"),
            ("expr", .obj [("value", .float .nan)])]]),
          ("from", .str "batting")]) = .ok c ∧
      c.sql = "SELECT nan AS \"x\"\nFROM \"batting\"") ∧
    ∀ w ∈ ["nan", "inf", "-inf"], ¬Target.postgres.Token w :=
  ⟨rfl, rfl, rfl, ⟨_, rfl, rfl⟩, fun _ => Target.postgres.not_token_word⟩

end Setting

end WindowSql
