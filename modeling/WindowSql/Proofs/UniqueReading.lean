import WindowSql.Proofs.DescPlacement
import WindowSql.Proofs.LiteralText
import WindowSql.Proofs.ShortestText

/-!
# Expressions are read in one way

Operations stand in parentheses where they are operands and nothing else does, so the text of an
expression without calls tells its tree:

* `doubled_append_inj`: a text between quotes is told from what follows it;
* `spelling_append_inj`, `reference_append_inj`: so are constants and columns, which are told from
  each other by their first characters;
* `operands_told`: so are operands, by induction over the tree;
* `text_eq_iff`: in the built-in dialects two expressions have one text exactly where they are one
  expression, up to truth values where those are written as integers.
-/

namespace WindowSql

/-- What may follow an operand: a blank, a closing parenthesis, or nothing. -/
def Ends (rest : List Char) : Prop := ∀ c, rest.head? = some c → c = ' ' ∨ c = ')'

theorem Ends.nil : Ends [] := nofun

theorem Ends.cons {c : Char} (h : c = ' ' ∨ c = ')') (rest : List Char) : Ends (c :: rest) := by
  rintro _ ⟨⟩
  exact h

theorem Ends.head_ne {rest : List Char} (h : Ends rest) {c : Char} (hc : c ∉ [' ', ')']) :
    rest.head? ≠ some c :=
  fun head => hc (by simpa using h c head)

/-- A word of numeral characters is told from what follows it. -/
theorem numeral_append_inj {w w' rest rest' : List Char} (hw : Numeral w) (hw' : Numeral w')
    (ends : Ends rest) (ends' : Ends rest') (eq : w ++ rest = w' ++ rest') :
    w = w' ∧ rest = rest' := by
  have stops {rest : List Char} (ends : Ends rest) : Stops (String.ofList rest) := by
    intro c hc
    rcases ends c (by simpa using hc) with rfl | rfl <;> rfl
  have read {w rest : List Char} (hw : Numeral w) (ends : Ends rest) :
      (w ++ rest).takeWhile isNumeralChar = w := by
    simpa using takeWhile_numeral hw (stops ends)
  have word : w = w' := by rw [← read hw ends, eq, read hw' ends']
  subst word
  exact ⟨rfl, List.append_cancel_left eq⟩

/-- A word of numeral characters begins with none of the other characters of an operand. -/
theorem numeral_append_ne {w rest : List Char} (hw : Numeral w) (ends : Ends rest) {c : Char}
    (hc : isNumeralChar c = false) (hc' : c ∉ [' ', ')']) (tail : List Char) :
    w ++ rest ≠ c :: tail := by
  intro eq
  cases w with
  | nil => exact ends.head_ne hc' (by rw [← List.nil_append rest, eq]; rfl)
  | cons d w =>
    obtain ⟨rfl, -⟩ := List.cons.inj eq
    rw [hw d List.mem_cons_self] at hc
    cases hc

/-- A text between quotes, with the quotes in it doubled, is told from what follows it. -/
theorem doubled_append_inj {p : Char → Bool} {close : Char} (hp : p close = true)
    {cs ds rest rest' : List Char} (stop : rest.head? ≠ some close)
    (stop' : rest'.head? ≠ some close)
    (eq : doubled p cs ++ close :: rest = doubled p ds ++ close :: rest') :
    cs = ds ∧ rest = rest' := by
  -- a quote that is followed by none ends the text
  have ended {c : Char} {cs rest rest' : List Char} (stop : rest.head? ≠ some close)
      (eq : close :: rest = doubled p (c :: cs) ++ rest') : False := by
    rw [doubled, List.flatMap_cons] at eq
    split at eq
    · obtain ⟨rfl, tail⟩ := List.cons.inj eq
      exact stop (by rw [tail]; rfl)
    · rename_i plain
      obtain ⟨rfl, -⟩ := List.cons.inj eq
      exact plain hp
  induction cs generalizing ds with
  | nil =>
    cases ds with
    | nil => exact ⟨rfl, (List.cons.inj eq).2⟩
    | cons d ds => exact (ended stop eq).elim
  | cons c cs ih =>
    cases ds with
    | nil => exact (ended stop' eq.symm).elim
    | cons d ds =>
      have first (c : Char) (cs : List Char) :
          (doubled p (c :: cs) ++ close :: rest).head? = some c := by
        rw [doubled, List.flatMap_cons]
        split <;> rfl
      have first' : (doubled p (d :: ds) ++ close :: rest').head? = some d := by
        rw [doubled, List.flatMap_cons]
        split <;> rfl
      obtain rfl : c = d := Option.some.inj (by rw [← first c cs, eq, first'])
      rw [doubled, doubled, List.flatMap_cons, List.flatMap_cons, List.append_assoc,
        List.append_assoc] at eq
      obtain ⟨rfl, rests⟩ := ih (List.append_cancel_left eq)
      exact ⟨rfl, rests⟩

def isIntegerChar (c : Char) : Bool := c.isDigit || c == '-'

theorem isIntegerChar_toString (i : Int) : ∀ c ∈ (toString i).toList, isIntegerChar c = true := by
  have digits (n : Nat) : ∀ c ∈ Nat.toDigits 10 n, isIntegerChar c = true := by
    intro c hc
    simp [isIntegerChar, Nat.isDigit_of_mem_toDigits (by decide) (by decide) hc]
  rw [Int.toString_eq_repr, Int.repr_eq_if]
  split
  · rw [Nat.toList_repr]
    exact digits _
  · have sign : ∀ c ∈ ['-'], isIntegerChar c = true := List.forall_mem_singleton.mpr rfl
    rw [String.toList_append, Nat.toList_repr]
    exact List.forall_mem_append.mpr ⟨sign, digits _⟩

theorem isUpper_of_isIntegerChar {c : Char} (h : isIntegerChar c = true) : c.isUpper = false := by
  rcases Bool.or_eq_true _ _ ▸ h with digit | sign
  · have top : c.val ≤ '9'.val := of_decide_eq_true (Bool.and_eq_true_iff.mp digit).2
    refine decide_eq_false fun upper : 'A'.val ≤ c.val ∧ c.val ≤ 'Z'.val => ?_
    exact absurd (UInt32.le_trans upper.1 top) (by decide)
  · obtain rfl := beq_iff_eq.mp sign
    rfl

/-- A number has a character that no integer has. -/
theorem Double.exists_mem_text (x : Double) : ∃ c ∈ x.text.toList, isIntegerChar c = false := by
  rw [x.toList_text]
  have body : ∃ c ∈ x.unsigned, isIntegerChar c = false := by
    cases x with
    | nan => exact ⟨'n', by decide, rfl⟩
    | infinite negative => exact ⟨'i', List.mem_cons_self, rfl⟩
    | finite negative e f =>
      rcases (fractional_magnitudeChars .standard e f).marked with point | exponent
      · exact ⟨'.', point, rfl⟩
      · exact ⟨'e', exponent, rfl⟩
  obtain ⟨c, hc, other⟩ := body
  exact ⟨c, List.mem_append_right _ hc, other⟩

theorem Double.head_text (x : Double) :
    ∃ c, x.text.toList.head? = some c ∧ c.isUpper = false := by
  rw [x.toList_text]
  cases x.isNegative with
  | true => exact ⟨'-', rfl, rfl⟩
  | false =>
    obtain ⟨c, head, first⟩ := x.unsigned_head
    refine ⟨c, head, ?_⟩
    rcases first with digit | letter
    · exact isUpper_of_isIntegerChar (by simp [isIntegerChar, digit])
    · simp only [List.mem_cons, List.not_mem_nil, or_false] at letter
      rcases letter with rfl | rfl <;> rfl

namespace Literal

/-- The constant with an integer for a truth value. -/
def truthAsInt : Literal → Literal
  | bool b => int (if b then 1 else 0)
  | v => v

/-- The ways in which a constant is written that is no text. -/
inductive Writing where
  | word | integer | number
  deriving DecidableEq

def writing (cs : List Char) : Writing :=
  if cs.head?.any Char.isUpper then .word
  else if cs.all isIntegerChar then .integer
  else .number

theorem writing_int (i : Int) : writing (toString i).toList = .integer := by
  have chars := isIntegerChar_toString i
  have head : (toString i).toList.head?.any Char.isUpper = false := by
    rw [Option.any_eq_false]
    intro c hc
    simpa using isUpper_of_isIntegerChar (chars c (List.mem_of_mem_head? hc))
  rw [writing, head, List.all_eq_true.mpr chars]
  rfl

theorem writing_float (x : Double) : writing x.text.toList = .number := by
  obtain ⟨c, head, lower⟩ := x.head_text
  obtain ⟨c', mem, other⟩ := x.exists_mem_text
  have some : x.text.toList.all isIntegerChar = false :=
    List.all_eq_false.mpr ⟨c', mem, by simp [other]⟩
  rw [writing, head, some]
  simp [lower]

def isText : Literal → Bool
  | str _ => true
  | _ => false

theorem exists_str {v : Literal} (text : ¬v.isText = false) : ∃ s, v = str s := by
  cases v with
  | str s => exact ⟨s, rfl⟩
  | null | bool | int | float => exact absurd rfl text

/-- What a constant is written as, unless it is a text or the dialect has no truth values. -/
def word (v : Literal) : String := Dialect.postgres.spelling v

/-- The way in which a constant is written; texts are not looked at. -/
def way : Literal → Writing
  | int _ => .integer
  | float _ => .number
  | _ => .word

theorem writing_word {v : Literal} (plain : v.isText = false) :
    writing v.word.toList = v.way := by
  cases v with
  | null => rfl
  | bool b => cases b <;> rfl
  | int i => exact writing_int i
  | float x => exact writing_float x
  | str s => cases plain

/-- Constants that are written as one word are one constant. -/
theorem word_inj {v v' : Literal} (plain : v.isText = false) (plain' : v'.isText = false)
    (h : v.word = v'.word) : v = v' := by
  have ways : v.way = v'.way := by rw [← writing_word plain, h, writing_word plain']
  have words (b : Bool) : word null ≠ word (bool b) := by cases b <;> decide
  -- what is written in different ways differs
  cases v <;> cases v' <;> simp only [isText, way, reduceCtorEq] at plain plain' ways
  case null.null => rfl
  case null.bool b => exact absurd h (words b)
  case bool.null b => exact absurd h.symm (words b)
  case bool.bool b b' => cases b <;> cases b' <;> first | rfl | exact absurd h (by decide)
  case int.int i i' =>
    have text : toString i = toString i' := h
    have read := congrArg (readInteger ·.toList) text
    simp only [readInteger_toString] at read
    exact congrArg int read
  case float.float x x' => exact congrArg float (Double.text_injective h)

end Literal

namespace Dialect
variable {d : Dialect}

/-- A constant as it is read back. -/
def readsAs (d : Dialect) (v : Literal) : Literal := if d.numericBooleans then v.truthAsInt else v

theorem spelling_eq_word {v : Literal} (plain : v.isText = false) :
    d.spelling v = (d.readsAs v).word ∧ (d.readsAs v).isText = false := by
  unfold readsAs
  cases v with
  | bool b => cases numeric : d.numericBooleans <;> cases b <;> simp [spelling, numeric] <;> decide
  | str s => cases plain
  | null | int | float => split <;> exact ⟨rfl, rfl⟩

theorem spelling_readsAs (v : Literal) : d.spelling (d.readsAs v) = d.spelling v := by
  unfold readsAs
  cases v with
  | bool b => cases numeric : d.numericBooleans <;> cases b <;> simp [spelling, numeric] <;> rfl
  | null | int | float | str => split <;> rfl

theorem numeral_of_plain {v : Literal} (plain : v.isText = false) :
    Numeral (d.spelling v).toList := by
  cases v with
  | null => exact (by decide : Numeral "NULL".toList)
  | bool b => exact d.numeral_spelling rfl
  | int i => exact d.numeral_spelling rfl
  | float x => exact d.numeral_spelling rfl
  | str s => cases plain

theorem toList_textLiteral (s : String) :
    (d.textLiteral s).toList =
      '\'' :: (doubled (fun c => c == '\'' || (d.escapesBackslash && c == '\\')) s.toList ++
        ['\'']) := by
  rw [textLiteral, String.toList_ofList, List.cons_append]

/-- A constant is told from what follows it. -/
theorem spelling_append_inj {v v' : Literal} {rest rest' : List Char} (ends : Ends rest)
    (ends' : Ends rest') (eq : (d.spelling v).toList ++ rest = (d.spelling v').toList ++ rest') :
    d.readsAs v = d.readsAs v' ∧ rest = rest' := by
  have apart {v : Literal} {s : String} {rest rest' : List Char} (plain : v.isText = false)
      (ends : Ends rest) (eq : (d.spelling v).toList ++ rest = (d.textLiteral s).toList ++ rest') :
      False := by
    rw [toList_textLiteral] at eq
    exact numeral_append_ne (numeral_of_plain plain) ends rfl (by decide) _ eq
  by_cases plain : v.isText = false <;> by_cases plain' : v'.isText = false
  · obtain ⟨word, rests⟩ := numeral_append_inj (numeral_of_plain plain) (numeral_of_plain plain')
      ends ends' eq
    obtain ⟨text, kept⟩ := spelling_eq_word (d := d) plain
    obtain ⟨text', kept'⟩ := spelling_eq_word (d := d) plain'
    rw [String.toList_inj, text, text'] at word
    exact ⟨Literal.word_inj kept kept' word, rests⟩
  · obtain ⟨s, rfl⟩ := Literal.exists_str plain'
    exact (apart plain ends eq).elim
  · obtain ⟨s, rfl⟩ := Literal.exists_str plain
    exact (apart plain' ends' eq.symm).elim
  · obtain ⟨s, rfl⟩ := Literal.exists_str plain
    obtain ⟨s', rfl⟩ := Literal.exists_str plain'
    rw [spelling, spelling, toList_textLiteral, toList_textLiteral, List.cons_append,
      List.cons_append, List.append_assoc, List.append_assoc] at eq
    obtain ⟨chars, rests⟩ := doubled_append_inj (by simp) (ends.head_ne (by decide))
      (ends'.head_ne (by decide)) (List.cons.inj eq).2
    rw [String.toList_inj.mp chars]
    exact ⟨rfl, rests⟩

/-- The quotes of names differ from everything else that an operand begins with or is followed by,
and the closing one is doubled. -/
structure Delimited (d : Dialect) : Prop where
  doubles : d.doublesQuote = true
  opening : isNumeralChar d.openQuote = false
  opening' : d.openQuote ∉ ['\'', '(', ' ', ')']
  closing : d.closeQuote ∉ ['.', ' ', ')']

theorem toList_quote (name : String) :
    (d.quote name).toList = d.openQuote ::
      (doubled (fun c => d.doublesQuote && c == d.closeQuote) name.toList ++ [d.closeQuote]) := by
  rw [quote, String.toList_ofList, List.cons_append]

theorem Delimited.quote_append_inj (h : d.Delimited) {name name' : String} {rest rest' : List Char}
    (stop : rest.head? ≠ some d.closeQuote) (stop' : rest'.head? ≠ some d.closeQuote)
    (eq : (d.quote name).toList ++ rest = (d.quote name').toList ++ rest') :
    name = name' ∧ rest = rest' := by
  rw [toList_quote, toList_quote, List.cons_append, List.cons_append, List.append_assoc,
    List.append_assoc] at eq
  have inside := (List.cons.inj eq).2
  obtain ⟨chars, rests⟩ := doubled_append_inj (by simp [h.doubles]) stop stop' inside
  exact ⟨String.toList_inj.mp chars, rests⟩

theorem splitFirstDot?_eq_some {cs before after : List Char}
    (h : Text.splitFirstDot? cs = some (before, after)) : cs = before ++ '.' :: after := by
  induction cs generalizing before with
  | nil => cases h
  | cons c cs ih =>
    rw [Text.splitFirstDot?] at h
    split at h
    · rename_i dot
      cases h
      rw [dot]
      rfl
    · obtain ⟨⟨before', after'⟩, split, eq⟩ := Option.map_eq_some_iff.mp h
      cases eq
      rw [ih split]
      rfl

/-- A column is written between quotes, in two parts if its name has a dot. -/
theorem reference_cases (name : String) :
    (d.reference name).toList = (d.quote name).toList ∨
    ∃ before after, name.toList = before ++ '.' :: after ∧
      (d.reference name).toList = (d.quote (String.ofList before)).toList ++
        '.' :: (d.quote (String.ofList after)).toList := by
  unfold reference
  split
  · rename_i before after split
    refine .inr ⟨before, after, splitFirstDot?_eq_some split, ?_⟩
    simp [String.toList_append]
  · exact .inl rfl

/-- A column is told from what follows it. -/
theorem Delimited.reference_append_inj (h : d.Delimited) {name name' : String}
    {rest rest' : List Char} (ends : Ends rest) (ends' : Ends rest')
    (eq : (d.reference name).toList ++ rest = (d.reference name').toList ++ rest') :
    name = name' ∧ rest = rest' := by
  have closing := h.closing
  simp only [List.mem_cons, not_or] at closing
  have stop {rest : List Char} (ends : Ends rest) : rest.head? ≠ some d.closeQuote :=
    ends.head_ne (by simp [closing])
  have dot (part : List Char) : ('.' :: part).head? ≠ some d.closeQuote := fun head =>
    closing.1 (Option.some.inj head).symm
  have noDot {rest part : List Char} (ends : Ends rest) (eq : rest = '.' :: part) : False :=
    ends.head_ne (c := '.') (by decide) (by rw [eq]; rfl)
  rcases d.reference_cases name with one | ⟨before, after, split, two⟩ <;>
    rcases d.reference_cases name' with one' | ⟨before', after', split', two'⟩
  · rw [one, one'] at eq
    exact h.quote_append_inj (stop ends) (stop ends') eq
  · rw [one, two', List.append_assoc, List.cons_append] at eq
    obtain ⟨-, rests⟩ := h.quote_append_inj (stop ends) (dot _) eq
    exact (noDot ends rests).elim
  · rw [two, one', List.append_assoc, List.cons_append] at eq
    obtain ⟨-, rests⟩ := h.quote_append_inj (dot _) (stop ends') eq
    exact (noDot ends' rests.symm).elim
  · rw [two, two', List.append_assoc, List.append_assoc, List.cons_append, List.cons_append] at eq
    obtain ⟨first, later⟩ := h.quote_append_inj (dot _) (dot _) eq
    obtain ⟨second, rests⟩ := h.quote_append_inj (stop ends) (stop ends') (List.cons.inj later).2
    rw [String.ofList_inj] at first second
    refine ⟨String.toList_inj.mp ?_, rests⟩
    rw [split, split', first, second]

/-- A constant begins with nothing but its quote or a numeral character. -/
theorem spelling_append_ne {v : Literal} {rest : List Char} (ends : Ends rest) {c : Char}
    (hc : isNumeralChar c = false) (hc' : c ∉ ['\'', ' ', ')']) (tail : List Char) :
    (d.spelling v).toList ++ rest ≠ c :: tail := by
  simp only [List.mem_cons, not_or] at hc'
  by_cases plain : v.isText = false
  · exact numeral_append_ne (numeral_of_plain plain) ends hc (by simp [hc']) tail
  · obtain ⟨s, rfl⟩ := Literal.exists_str plain
    rw [spelling, toList_textLiteral]
    exact fun eq => hc'.1 (List.cons.inj eq).1.symm

theorem reference_eq_cons (name : String) :
    ∃ tail, (d.reference name).toList = d.openQuote :: tail := by
  rcases d.reference_cases name with one | ⟨before, after, -, two⟩
  · exact ⟨_, one.trans (toList_quote name)⟩
  · exact ⟨_, by rw [two, toList_quote, List.cons_append]⟩

end Dialect

/-- The built-in dialects quote names so that their ends are found. -/
theorem Target.delimited (t : Target) : t.dialect.Delimited := by
  cases t <;> exact ⟨rfl, rfl, by decide, by decide⟩

namespace Expr

def between (op : BinaryOp) (left right : List Char) : List Char :=
  left ++ ' ' :: (op.sql.toList ++ ' ' :: right)

def operandChars (d : Dialect) : Expr → List Char
  | column name => (d.reference name).toList
  | literal v => (d.spelling v).toList
  | binary op l r => '(' :: (between op (operandChars d l) (operandChars d r) ++ [')'])
  | _ => []

/-- The expression with integers for the truth values outside its calls. -/
def truthAsInt : Expr → Expr
  | literal v => literal v.truthAsInt
  | binary op l r => binary op (truthAsInt l) (truthAsInt r)
  | desc e => desc (truthAsInt e)
  | e => e

/-- An expression as it is read back. -/
def readsAs (d : Dialect) (e : Expr) : Expr := if d.numericBooleans then e.truthAsInt else e

theorem readsAs_literal (d : Dialect) (v : Literal) :
    (literal v).readsAs d = literal (d.readsAs v) := by
  unfold readsAs Dialect.readsAs
  split <;> rfl

theorem readsAs_binary (d : Dialect) (op : BinaryOp) (l r : Expr) :
    (binary op l r).readsAs d = binary op (l.readsAs d) (r.readsAs d) := by
  unfold readsAs
  split <;> rfl

end Expr

theorem BinaryOp.sql_append_inj {op op' : BinaryOp} {rest rest' : List Char}
    (eq : op.sql.toList ++ ' ' :: rest = op'.sql.toList ++ ' ' :: rest') :
    op = op' ∧ rest = rest' := by
  have noBlank (op : BinaryOp) : ' ' ∉ op.sql.toList := by cases op <;> decide
  have words := congrArg (cut ' ') eq
  rw [cut_append (noBlank op), cut_append (noBlank op')] at words
  obtain ⟨word, rests⟩ := Prod.mk.inj words
  refine ⟨?_, rests⟩
  revert word
  cases op <;> cases op' <;> decide

namespace Expr
variable {d : Dialect}

/-- Operands that are written alike before any rest are read back as one, and so are the rests. -/
def Told (d : Dialect) (a b : Expr) : Prop :=
  ∀ {rest rest' : List Char}, Ends rest → Ends rest' →
    a.operandChars d ++ rest = b.operandChars d ++ rest' →
      a.readsAs d = b.readsAs d ∧ rest = rest'

/-- An operation is told by its left operand, the word after it and the right operand. -/
theorem between_append_inj {op op' : BinaryOp} {l l' r r' : Expr} {rest rest' : List Char}
    (left : Told d l l') (right : Told d r r') (ends : Ends rest) (ends' : Ends rest')
    (eq : between op (l.operandChars d) (r.operandChars d) ++ rest =
      between op' (l'.operandChars d) (r'.operandChars d) ++ rest') :
    (binary op l r).readsAs d = (binary op' l' r').readsAs d ∧ rest = rest' := by
  simp only [between, List.append_assoc, List.cons_append] at eq
  obtain ⟨lefts, word⟩ := left (.cons (.inl rfl) _) (.cons (.inl rfl) _) eq
  obtain ⟨rfl, later⟩ := BinaryOp.sql_append_inj (List.cons.inj word).2
  obtain ⟨rights, rests⟩ := right ends ends' later
  exact ⟨by rw [readsAs_binary, readsAs_binary, lefts, rights], rests⟩

/-- An operand is told from what follows it, and tells its tree. -/
theorem operands_told (h : d.Delimited) {a b : Expr} (ha : a.Scalar) (hb : b.Scalar) :
    Told d a b := by
  intro rest rest' ends ends' eq
  have opening := h.opening'
  simp only [List.mem_cons, List.not_mem_nil, or_false, not_or] at opening
  -- columns, constants and operations begin with different characters
  have columnLiteral {name : String} {v : Literal} {rest rest' : List Char} (ends' : Ends rest')
      (eq : (d.reference name).toList ++ rest = (d.spelling v).toList ++ rest') : False := by
    obtain ⟨tail, text⟩ := d.reference_eq_cons name
    rw [text, List.cons_append] at eq
    exact Dialect.spelling_append_ne ends' h.opening (by simp [opening]) _ eq.symm
  have columnBinary {name : String} {rest tail : List Char}
      (eq : (d.reference name).toList ++ rest = '(' :: tail) : False := by
    obtain ⟨tail', text⟩ := d.reference_eq_cons name
    rw [text, List.cons_append] at eq
    exact opening.2.1 (List.cons.inj eq).1
  have literalBinary {v : Literal} {rest tail : List Char} (ends : Ends rest)
      (eq : (d.spelling v).toList ++ rest = '(' :: tail) : False :=
    Dialect.spelling_append_ne ends rfl (by decide) _ eq
  induction a generalizing b rest rest' with
  | column name =>
    cases b with
    | column name' =>
      obtain ⟨rfl, rests⟩ := h.reference_append_inj ends ends' eq
      exact ⟨rfl, rests⟩
    | literal v => exact (columnLiteral ends' eq).elim
    | binary op l r => exact (columnBinary eq).elim
    | call func args orderBy => cases hb.2
    | desc e => exact hb.1.elim
  | literal v =>
    cases b with
    | column name => exact (columnLiteral ends eq.symm).elim
    | literal v' =>
      obtain ⟨constant, rests⟩ := Dialect.spelling_append_inj ends ends' eq
      exact ⟨by rw [readsAs_literal, readsAs_literal, constant], rests⟩
    | binary op l r => exact (literalBinary ends eq).elim
    | call func args orderBy => cases hb.2
    | desc e => exact hb.1.elim
  | binary op l r ihl ihr =>
    cases b with
    | column name => exact (columnBinary eq.symm).elim
    | literal v => exact (literalBinary ends' eq.symm).elim
    | binary op' l' r' =>
      obtain ⟨left, right⟩ := ha.operands
      obtain ⟨left', right'⟩ := hb.operands
      rw [operandChars, operandChars, List.cons_append, List.cons_append, List.append_assoc,
        List.append_assoc] at eq
      obtain ⟨tree, rests⟩ := between_append_inj (fun ends ends' => ihl left left' ends ends')
        (fun ends ends' => ihr right right' ends ends') (.cons (.inr rfl) _) (.cons (.inr rfl) _)
        (List.cons.inj eq).2
      exact ⟨tree, (List.cons.inj rests).2⟩
    | call func args orderBy => cases hb.2
    | desc e => exact hb.1.elim
  | call func args orderBy => cases ha.2
  | desc e => exact ha.1.elim

/-! ## Expressions -/

def chars (d : Dialect) : Expr → List Char
  | binary op l r => between op (operandChars d l) (operandChars d r)
  | e => operandChars d e

/-- What is written for an expression without calls. -/
theorem Scalar.chars_of_sql {a : Expr} (ha : a.Scalar) {l : Limits} {d : Dialect}
    {call : Call → Except Failure String} {t : String} (h : a.sql l d call = .ok t) :
    t.toList = a.chars d ∧ (a.operand t).toList = a.operandChars d := by
  induction a generalizing t with
  | column name =>
    cases h
    exact ⟨rfl, rfl⟩
  | literal v =>
    obtain ⟨-, rfl⟩ := Dialect.literal_eq_ok.mp (LongInteger.lift_eq_ok.mp h)
    exact ⟨rfl, rfl⟩
  | binary op a b iha ihb =>
    obtain ⟨left, right⟩ := ha.operands
    simp only [sql, bind_eq_ok, pure_eq_ok, Except.ok.injEq] at h
    obtain ⟨x, hx, y, hy, rfl⟩ := h
    obtain ⟨-, left⟩ := iha left hx
    obtain ⟨-, right⟩ := ihb right hy
    have text : (a.operand x ++ " " ++ op.sql ++ " " ++ b.operand y).toList =
        (binary op a b).chars d := by
      simp [chars, between, ← left, ← right, String.toList_append]
    refine ⟨text, ?_⟩
    rw [operand, isBinary, if_pos rfl, String.toList_append, String.toList_append, text]
    rfl
  | call func args orderBy => cases ha.2
  | desc e => exact ha.1.elim

theorem exists_operands {a : Expr} (operation : a.isBinary = true) :
    ∃ op l r, a = binary op l r := by
  cases a with
  | binary op l r => exact ⟨op, l, r, rfl⟩
  | column | literal | call | desc => cases operation

theorem chars_of_not_isBinary {a : Expr} (atom : a.isBinary = false) :
    a.chars d = a.operandChars d := by
  cases a with
  | binary op l r => cases atom
  | column | literal | call | desc => rfl

/-- An operation is written like no other expression. -/
theorem between_ne (h : d.Delimited) {op : BinaryOp} {l r b : Expr} (hl : l.Scalar)
    (hb : b.Scalar) :
    between op (l.operandChars d) (r.operandChars d) ≠ b.operandChars d := by
  intro eq
  rw [between, ← List.append_nil (b.operandChars d)] at eq
  obtain ⟨-, more⟩ := operands_told h hl hb (.cons (.inl rfl) _) .nil eq
  cases more

/-- Expressions without calls that are written alike are read back as one. -/
theorem chars_inj (h : d.Delimited) {a b : Expr} (ha : a.Scalar) (hb : b.Scalar)
    (eq : a.chars d = b.chars d) : a.readsAs d = b.readsAs d := by
  cases hba : a.isBinary <;> cases hbb : b.isBinary
  · rw [chars_of_not_isBinary hba, chars_of_not_isBinary hbb] at eq
    exact (operands_told h ha hb .nil .nil (congrArg (· ++ []) eq)).1
  · obtain ⟨op, l, r, rfl⟩ := exists_operands hbb
    rw [chars_of_not_isBinary hba] at eq
    exact absurd eq.symm (between_ne h hb.operands.1 ha)
  · obtain ⟨op, l, r, rfl⟩ := exists_operands hba
    rw [chars_of_not_isBinary hbb] at eq
    exact absurd eq (between_ne h ha.operands.1 hb)
  · obtain ⟨op, l, r, rfl⟩ := exists_operands hba
    obtain ⟨op', l', r', rfl⟩ := exists_operands hbb
    exact (between_append_inj (operands_told h ha.operands.1 hb.operands.1)
      (operands_told h ha.operands.2 hb.operands.2) .nil .nil (congrArg (· ++ []) eq)).1

theorem operandChars_readsAs (d : Dialect) (a : Expr) :
    (a.readsAs d).operandChars d = a.operandChars d := by
  induction a with
  | literal v => rw [readsAs_literal, operandChars, operandChars, Dialect.spelling_readsAs]
  | binary op l r ihl ihr => rw [readsAs_binary, operandChars, operandChars, ihl, ihr]
  | column | call => unfold readsAs; split <;> rfl
  | desc e => unfold readsAs; split <;> rfl

theorem chars_readsAs (d : Dialect) (a : Expr) : (a.readsAs d).chars d = a.chars d := by
  cases a with
  | binary op l r =>
    rw [readsAs_binary, chars, chars, operandChars_readsAs, operandChars_readsAs]
  | literal v =>
    have operand := operandChars_readsAs d (literal v)
    rw [readsAs_literal] at operand ⊢
    exact operand
  | column | call | desc => unfold readsAs; split <;> rfl

end Expr

namespace Setting

/-- **Expressions are told by their texts.** In each of the built-in dialects expressions of
columns, constants and operators are written where no integer in them is too long. They are written
alike exactly where they are the same tree with the same constants; in SQLite a truth value is
written like the integer 1 or 0. -/
theorem text_eq_iff (s : Setting) (t : Target) (builtin : s.dialect = t.dialect) {a b : Expr}
    (ha : a.Scalar) (hb : b.Scalar) (inWindow inWindow' : Bool) :
    ((∃ x, s.text inWindow a = .ok x) ↔ ∀ v ∈ a.outerLiterals, v.Admitted s.limits) ∧
    ∀ x y, s.text inWindow a = .ok x → s.text inWindow' b = .ok y →
      (x = y ↔ if t = .sqlite then a.truthAsInt = b.truthAsInt else a = b) := by
  refine ⟨ha.exists_sql_iff _ _ _, fun x y hx hy => ?_⟩
  obtain ⟨left, -⟩ := ha.chars_of_sql hx
  obtain ⟨right, -⟩ := hb.chars_of_sql hy
  have told : x = y ↔ a.readsAs t.dialect = b.readsAs t.dialect := by
    rw [← String.toList_inj, left, right, builtin]
    refine ⟨Expr.chars_inj t.delimited ha hb, fun same => ?_⟩
    rw [← Expr.chars_readsAs, same, Expr.chars_readsAs]
  refine told.trans ?_
  cases t <;> exact Iff.rfl

/-- Whether the column `all.G` has a value. -/
def countedBy (v : Literal) : Expr := .binary .eq (.column "all.G") (.literal v)

/-- Truth values are not told from integers in SQLite, and are in PostgreSQL. -/
theorem text_eq_iff_truthValue :
    (countedBy (.bool true)).Scalar ∧ (countedBy (.int 1)).Scalar ∧
    (∃ x y, Setting.text { dialect := .sqlite } false (countedBy (.bool true)) = .ok x ∧
      Setting.text { dialect := .sqlite } false (countedBy (.int 1)) = .ok y ∧ x = y) ∧
    ∃ x y, postgres.text false (countedBy (.bool true)) = .ok x ∧
      postgres.text false (countedBy (.int 1)) = .ok y ∧ x ≠ y := by
  have scalar (v : Literal) : (countedBy v).Scalar := ⟨⟨trivial, trivial⟩, rfl⟩
  refine ⟨scalar _, scalar _, ⟨_, _, rfl, rfl, ?_⟩, _, _, rfl, rfl, fun eq => ?_⟩
  · obtain ⟨-, told⟩ := text_eq_iff { dialect := .sqlite } .sqlite rfl (scalar (.bool true))
      (scalar (.int 1)) false false
    exact (told _ _ rfl rfl).mpr rfl
  · obtain ⟨-, told⟩ := text_eq_iff postgres .postgres rfl (scalar (.bool true))
      (scalar (.int 1)) false false
    have same : countedBy (.bool true) = countedBy (.int 1) := (told _ _ rfl rfl).mp eq
    simp [countedBy] at same

end Setting

end WindowSql
