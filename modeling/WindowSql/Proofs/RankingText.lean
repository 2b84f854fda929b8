import WindowSql.Proofs.AcceptedCalls
import WindowSql.Proofs.TextFailures
import WindowSql.Proofs.UniqueReading
import WindowSql.Proofs.WellFormed
import WindowSql.Proofs.Windows

/-!
# The text of ranking functions

SQL applies its ranking functions to nothing, and `NTILE` to the number of its buckets:

* `WindowFunction.BareText`: the text of a ranking function that is applied so;
* `Call.ConstantKey`: a call with a constant where its function takes the ordering key from;
* `ranking_arguments`, `exists_buckets`: what the ranking functions take, and are called with;
* `writtenArgs_eq`: a key moves into the window, and the constants stay where they are;
* `ranking_text`: so the calls with a constant for a key, and no others, are written with an
  argument too many.
-/

namespace WindowSql

/-- A ranking function of SQL without an argument of its own: applied to nothing, or `NTILE` to the
number of its buckets. -/
inductive WindowFunction.BareText (f : WindowFunction) : String → Prop where
  | empty (other : f.name ≠ "ntile") : BareText f (f.sqlName ++ "()")
  | buckets (ntile : f.name = "ntile") {k : Int} (positive : 1 ≤ k) :
    BareText f (f.sqlName ++ "(" ++ toString k ++ ")")

theorem WindowFunction.BareText.inside {f : WindowFunction} {x : String}
    (h : f.BareText (f.sqlName ++ "(" ++ x ++ ")")) :
    f.name ≠ "ntile" ∧ x = "" ∨ f.name = "ntile" ∧ ∃ k : Int, x = toString k := by
  generalize text : f.sqlName ++ "(" ++ x ++ ")" = given at h
  cases h with
  | empty other =>
    have parens : f.sqlName ++ "()" = f.sqlName ++ "(" ++ "" ++ ")" := by
      simp [String.append_assoc]
    rw [parens, String.append_left_inj, String.append_right_inj] at text
    exact .inl ⟨other, text⟩
  | buckets ntile positive =>
    rw [String.append_left_inj, String.append_right_inj] at text
    exact .inr ⟨ntile, _, text⟩

/-- A call has a constant where its function takes the ordering key from. The number of buckets,
where that is the one argument, is no key. -/
structure Call.ConstantKey (c : Call) (f : WindowFunction) : Prop where
  source : f.orderSource = .firstArgument
  constant : ∃ v, c.args.head? = some (.literal v)
  spare : f.name = "ntile" → 1 < c.args.length

def constants : List Expr → List Literal
  | [] => []
  | .literal v :: rest => v :: constants rest
  | _ :: rest => constants rest

def Dialect.applied (d : Dialect) (name : String) (vs : List Literal) : String :=
  name ++ "(" ++ ", ".intercalate (vs.map d.spelling) ++ ")"

namespace WindowFunction
variable {f : WindowFunction}

theorem ranking_named (mem : f ∈ builtin) (ranking : f.category = .ranking) (t : Target) :
    t.dialect.function? f.sqlName = some f.sqlName := by
  revert f
  cases t <;> decide

theorem ranking_starless (mem : f ∈ builtin) (ranking : f.category = .ranking) :
    f.starWhenEmpty = false := by
  revert f
  decide

theorem ranking_orderSource (mem : f ∈ builtin) (ranking : f.category = .ranking) :
    f.name ≠ "ntile" ∧ f.orderSource = .contextOnly ∨ f.orderSource = .firstArgument := by
  revert f
  decide

/-- All take a key alone, but for `ntile`, which takes a number of buckets after it. -/
theorem ranking_arguments (mem : f ∈ builtin) (ranking : f.category = .ranking) :
    f.name ≠ "ntile" ∧ f.maxArgs = 1 ∨
      f.name = "ntile" ∧ f.minArgs = 1 ∧ f.maxArgs = 2 ∧ f.integerArgs = [(-1, 1)] := by
  revert f
  decide

/-- What a ranking function is applied to in SQL. -/
inductive Buckets (f : WindowFunction) : List Literal → Prop where
  | none (other : f.name ≠ "ntile") : Buckets f []
  | number (ntile : f.name = "ntile") {k : Int} (positive : 1 ≤ k) : Buckets f [.int k]

/-- A ranking function is called with what it is applied to, and at most one argument before. -/
theorem exists_buckets {args : List Expr} (mem : f ∈ builtin) (ranking : f.category = .ranking)
    (takes : f.Takes args) :
    ∃ buckets, f.Buckets buckets ∧
      (args = buckets.map .literal ∨ ∃ e, args = e :: buckets.map .literal) := by
  obtain ⟨least, most, integers⟩ := takes
  rcases ranking_arguments mem ranking with ⟨other, one⟩ | ⟨ntile, one, two, integer⟩
  · refine ⟨[], .none other, ?_⟩
    rw [one] at most
    match args with
    | [] => exact .inl rfl
    | [e] => exact .inr ⟨e, rfl⟩
    | _ :: _ :: _ =>
      simp only [List.length_cons] at most
      omega
  · rw [one] at least
    rw [two] at most
    have last (i : Nat) (e : Expr) (given : args[i]? = some e) (count : args.length = i + 1) :
        ∃ k : Int, e = .literal (.int k) ∧ 1 ≤ k := by
      apply integers (-1, 1) (by simp [integer]) i e given
      omega
    match args with
    | [] => simp at least
    | [e] =>
      obtain ⟨k, rfl, positive⟩ := last 0 e rfl rfl
      exact ⟨_, .number ntile positive, .inl rfl⟩
    | [e, e'] =>
      obtain ⟨k, rfl, positive⟩ := last 1 e' rfl rfl
      exact ⟨_, .number ntile positive, .inr ⟨e, rfl⟩⟩
    | _ :: _ :: _ :: _ =>
      simp only [List.length_cons] at most
      omega

end WindowFunction

theorem constants_map_literal (vs : List Literal) : constants (vs.map .literal) = vs := by
  induction vs with
  | nil => rfl
  | cons v rest ih => rw [List.map_cons, constants, ih]

theorem constants_cons_of_not_isLiteral {e : Expr} (other : e.isLiteral = false)
    (args : List Expr) : constants (e :: args) = constants args := by
  cases e with
  | literal v => cases other
  | column | call | binary | desc => rfl

namespace Call
variable {c : Call} {f : WindowFunction}

theorem writtenArgs_of_contextOnly (ranking : f.category = .ranking)
    (source : f.orderSource = .contextOnly) : c.writtenArgs f = [] := by
  simp [writtenArgs, ranking, source]

/-- The key that a ranking function is ordered by is not written, and constants are. -/
theorem writtenArgs_eq {vs : List Literal} (ranking : f.category = .ranking)
    (source : f.orderSource = .firstArgument)
    (args : c.args = vs.map .literal ∨ ∃ e, c.args = e :: vs.map .literal) :
    c.writtenArgs f = (constants c.args).map .literal := by
  have all (vs : List Literal) (args : c.args = vs.map .literal) :
      c.writtenArgs f = (constants c.args).map .literal := by
    have none : c.keyArgument? f = none := by
      cases vs <;> simp [keyArgument?, args, Expr.isLiteral]
    simp [writtenArgs, ranking, source, none, args, constants_map_literal]
  rcases args with args | ⟨e, args⟩
  · exact all vs args
  · by_cases key : e.isLiteral = false
    · have moved : c.keyArgument? f = some e := by
        simp [keyArgument?, source, args, key]
      simp [writtenArgs, ranking, source, moved, args, constants_cons_of_not_isLiteral key,
        constants_map_literal]
    · cases e with
      | literal v => exact all (v :: vs) args
      | column | call | binary | desc => exact absurd rfl key

/-- Only a constant key is a constant besides what the function is applied to. -/
theorem constants_cases {buckets : List Literal} (given : f.Buckets buckets)
    (source : f.orderSource = .firstArgument)
    (args : c.args = buckets.map .literal ∨ ∃ e, c.args = e :: buckets.map .literal) :
    ¬c.ConstantKey f ∧ constants c.args = buckets ∨
      c.ConstantKey f ∧ ∃ v, constants c.args = v :: buckets := by
  rcases args with args | ⟨e, args⟩
  · refine .inl ⟨?_, by rw [args, constants_map_literal]⟩
    rintro ⟨-, ⟨v, first⟩, spare⟩
    cases given with
    | none => simp [args] at first
    | number ntile =>
      have more := spare ntile
      simp [args] at more
  · by_cases key : e.isLiteral = false
    · refine .inl ⟨?_, ?_⟩
      · rintro ⟨-, ⟨v, first⟩, -⟩
        rw [args, List.head?_cons] at first
        obtain rfl := Option.some.inj first
        cases key
      · rw [args, constants_cons_of_not_isLiteral key, constants_map_literal]
    · cases e with
      | literal v =>
        refine .inr ⟨⟨source, ⟨v, by rw [args, List.head?_cons]⟩, ?_⟩, v, ?_⟩
        · intro ntile
          cases given with
          | none other => exact absurd ntile other
          | number => simp [args]
        · rw [args, constants, constants_map_literal]
      | column | call | binary | desc => exact absurd rfl key

end Call

namespace Dialect
variable {d : Dialect} {f : WindowFunction} {buckets : List Literal}

theorem spelling_ne_empty (d : Dialect) (v : Literal) : d.spelling v ≠ "" := by
  cases v with
  | null => simp [spelling]
  | bool b => cases numeric : d.numericBooleans <;> cases b <;> simp [spelling, numeric]
  | int i =>
    intro empty
    rw [spelling, Int.toString_eq_repr, Int.repr_eq_if] at empty
    split at empty
    · exact Nat.repr_ne_empty empty
    · simp at empty
  | float x =>
    intro empty
    obtain ⟨c, mem, -⟩ := x.exists_mem_text
    rw [spelling] at empty
    simp [empty] at mem
  | str s =>
    intro empty
    have chars := d.toList_textLiteral s
    rw [spelling] at empty
    simp [empty] at chars

theorem bareText_applied (given : f.Buckets buckets) :
    f.BareText (d.applied f.sqlName buckets) := by
  cases given with
  | none other =>
    have text : d.applied f.sqlName [] = f.sqlName ++ "()" := by
      simp [applied, String.append_assoc]
    exact text ▸ .empty other
  | number ntile positive =>
    simpa [applied, spelling] using WindowFunction.BareText.buckets ntile positive

/-- An argument more is one too many. -/
theorem not_bareText_applied_cons (v : Literal) (given : f.Buckets buckets) :
    ¬f.BareText (d.applied f.sqlName (v :: buckets)) := by
  unfold applied
  intro bare
  rcases bare.inside with ⟨other, nothing⟩ | ⟨ntile, k', number⟩
  · cases given with
    | none => exact d.spelling_ne_empty v (by simpa using nothing)
    | number ntile => exact other ntile
  · cases given with
    | none other => exact other ntile
    | number _ positive =>
      -- no number is written with the comma between the two
      have comma : ',' ∈ (toString k').toList := by
        rw [← number]
        simp
      exact absurd (numeral_int k' ',' comma) (by decide)

end Dialect

namespace Setting

/-- Constants that are written are spelled as the dialect spells them. -/
theorem spellings_of_mapM_text {s : Setting} {levels : Nat} {vs : List Literal} {ts : List String}
    (h : (vs.map Expr.literal).mapM (s.textWithin levels false) = .ok ts) :
    ts = vs.map s.dialect.spelling := by
  rw [mapM_eq_ok, List.forall₂_map_left_iff] at h
  rw [← List.forall₂_eq_eq_eq, List.forall₂_map_right_iff]
  refine h.flip.imp fun t v text => ?_
  exact (Dialect.literal_eq_ok.mp (LongInteger.lift_eq_ok.mp text)).2.symm

variable {s : Setting} {context : Context} {inWindow : Bool} {f : WindowFunction} {c : Call}
  {w : WindowColumn}

/-- An accepted call has arguments that its function takes. -/
theorem Accepts.takes (accepted : s.Accepts c) (known : s.catalog.get c.func = .ok f) :
    f.Takes c.args := by
  obtain ⟨-, calls⟩ := Expr.check_eq_ok.mp accepted
  obtain ⟨-, f', known', counted⟩ := Call.check_eq_ok.mp (calls c (List.mem_singleton_self _))
  obtain rfl := Except.ok.inj (known.symm.trans known')
  exact Call.checkArgs_eq_ok_iff_takes.mp counted

theorem functionSql_eq_applied {t : Target} (dialect : s.dialect = t.dialect)
    (mem : f ∈ WindowFunction.builtin) (ranking : f.category = .ranking)
    (h : s.windowColumnIn context inWindow f c = .ok w) {vs : List Literal}
    (constant : c.writtenArgs f = vs.map .literal) :
    w.functionSql = s.dialect.applied f.sqlName vs := by
  obtain ⟨-, function, -⟩ := Call.windowColumn_eq_ok.mp h
  obtain ⟨name, args, spelled, written, text⟩ := Call.functionSql_eq_ok.mp function
  rw [dialect, WindowFunction.ranking_named mem ranking t] at spelled
  obtain rfl := Option.some.inj spelled
  rw [constant] at written
  obtain rfl := spellings_of_mapM_text written
  rw [WindowFunction.ranking_starless mem ranking, Bool.and_false] at text
  simpa [Dialect.applied, String.append_assoc] using text

/-- **A ranking function is applied to nothing, and `ntile` to its number of buckets.** So it is for
every accepted call, unless a constant is given for the key: that is no key, and is written. -/
theorem ranking_text (t : Target) (dialect : s.dialect = t.dialect) (catalog : s.catalog = {})
    (known : s.catalog.get c.func = .ok f) (ranking : f.category = .ranking)
    (accepted : s.Accepts c) (h : s.windowColumnIn context inWindow f c = .ok w) :
    (f.BareText w.functionSql ↔ ¬c.ConstantKey f) ∧
    (f.orderSource = .firstArgument →
      w.functionSql = s.dialect.applied f.sqlName (constants c.args)) := by
  have mem : f ∈ WindowFunction.builtin := by
    have functions := Catalog.mem_of_get known
    rwa [catalog, Catalog.functions, List.append_nil] at functions
  obtain ⟨buckets, given, args⟩ :=
    WindowFunction.exists_buckets mem ranking (accepted.takes known)
  rcases WindowFunction.ranking_orderSource mem ranking with ⟨other, source⟩ | source
  · have text : w.functionSql = s.dialect.applied f.sqlName [] :=
      functionSql_eq_applied dialect mem ranking h (Call.writtenArgs_of_contextOnly ranking source)
    have bare : f.BareText w.functionSql := by
      rw [text]
      exact Dialect.bareText_applied (.none other)
    have later : f.orderSource ≠ .firstArgument := by simp [source]
    exact ⟨iff_of_true bare fun key => later key.source, fun first => absurd first later⟩
  · have text : w.functionSql = s.dialect.applied f.sqlName (constants c.args) :=
      functionSql_eq_applied dialect mem ranking h (Call.writtenArgs_eq ranking source args)
    refine ⟨?_, fun _ => text⟩
    rw [text]
    rcases Call.constants_cases given source args with ⟨other, kept⟩ | ⟨key, v, more⟩
    · rw [kept]
      exact iff_of_true (Dialect.bareText_applied given) other
    · rw [more]
      exact iff_of_false (Dialect.not_bareText_applied_cons v given) (not_not_intro key)

def rankingByYear (func : String) (args : List Expr) : Call :=
  ⟨func, args, some [.column "yearID"]⟩

/-- Four buckets by the games. -/
def bucketsOfGames : Call := rankingByYear "ntile" [.column "G", .literal (.int 4)]

theorem ranking_text_buckets :
    ∃ f w, postgres.catalog.get bucketsOfGames.func = .ok f ∧ postgres.Accepts bucketsOfGames ∧
      postgres.windowColumnIn {} false f bucketsOfGames = .ok w ∧
      w.functionSql = "NTILE(4)" ∧ f.BareText w.functionSql := by
  obtain ⟨f, known, ranking, w, resolved, text⟩ :
      ∃ f, postgres.catalog.get bucketsOfGames.func = .ok f ∧ f.category = .ranking ∧
        ∃ w, postgres.windowColumnIn {} false f bucketsOfGames = .ok w ∧
          w.functionSql = "NTILE(4)" := ⟨_, rfl, rfl, _, rfl, rfl⟩
  have accepted : postgres.Accepts bucketsOfGames := rfl
  obtain ⟨bare, -⟩ := ranking_text .postgres rfl rfl known ranking accepted resolved
  refine ⟨f, w, known, accepted, resolved, text, bare.mpr ?_⟩
  rintro ⟨-, ⟨v, column⟩, -⟩
  cases column

/-- A constant in place of the key is written as an argument. -/
theorem constant_key_written :
    (∃ f w, postgres.catalog.get "min_rank" = .ok f ∧ f.category = .ranking ∧
      postgres.Accepts (rankingByYear "min_rank" [.literal (.int 5)]) ∧
      postgres.windowColumnIn {} false f (rankingByYear "min_rank" [.literal (.int 5)]) = .ok w ∧
      w.functionSql = "RANK(5)" ∧ ¬f.BareText "RANK(5)") ∧
    ∃ f w, postgres.catalog.get "ntile" = .ok f ∧ f.category = .ranking ∧
      postgres.Accepts (rankingByYear "ntile" [.literal (.int 5), .literal (.int 4)]) ∧
      postgres.windowColumnIn {} false f
        (rankingByYear "ntile" [.literal (.int 5), .literal (.int 4)]) = .ok w ∧
      w.functionSql = "NTILE(5, 4)" ∧ ¬f.BareText "NTILE(5, 4)" := by
  constructor
  · refine ⟨_, _, rfl, rfl, rfl, rfl, rfl, ?_⟩
    exact Dialect.not_bareText_applied_cons (.int 5) (.none (by decide)) (d := .postgres)
  · refine ⟨_, _, rfl, rfl, rfl, rfl, rfl, ?_⟩
    have four : (1 : Int) ≤ 4 := by decide
    exact Dialect.not_bareText_applied_cons (.int 5) (.number rfl four) (d := .postgres)

end Setting

end WindowSql
