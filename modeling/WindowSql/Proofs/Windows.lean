import WindowSql.Proofs.Outcomes
import WindowSql.Statement.Promotion

/-!
# Windows

What a window is made of where a call has one, and where it can be written:

* `window_eq_ok`: the category, the ordering, the frame and the partition of a window;
* `functionSql_eq_ok`, `Window.sql_eq_ok`: the texts of the function and of the window;
* `windowColumn_eq_ok`: a call that can be written;
* `windowColumn_inWindow`: a call that has a window anywhere has the same one in a filter;
* `checkPartitions_of_windowColumns`: the windows of a context share one partition.
-/

namespace WindowSql

namespace Call

theorem window_eq_ok {c : Call} {f : WindowFunction} {context : Context} {inWindow : Bool}
    {category : Category} {w : Window} :
    c.window f context inWindow = .ok (category, w) ↔
      c.category f context inWindow = .ok category ∧
      ¬((c.windowOrdering f context category).isEmpty = true ∧ f.requiresOrder = true) ∧
      w.orderBy = c.windowOrdering f context category ∧
      c.frame f category context.profile (!w.orderBy.isEmpty) = .ok w.frame ∧
      (Schema.partitionNames context.partition).mapError Failure.window = .ok w.partitionBy := by
  simp only [window, bind_eq_ok, lift_eq_ok]
  constructor
  · rintro ⟨category', found, run⟩
    by_cases missing : (c.windowOrdering f context category').isEmpty = true ∧
        f.requiresOrder = true
    · rw [if_pos missing] at run
      cases run
    · simp only [if_neg missing, bind_eq_ok, lift_eq_ok, pure_eq_ok, Except.ok.injEq,
        Prod.mk.injEq] at run
      obtain ⟨_, frame, names, partition, rfl, rfl⟩ := run
      exact ⟨found, missing, rfl, frame, partition⟩
  · rintro ⟨found, ordered, orderBy, frame, partition⟩
    refine ⟨category, found, ?_⟩
    rw [orderBy] at frame
    simp only [if_neg ordered, bind_eq_ok, lift_eq_ok, pure_eq_ok, Except.ok.injEq,
      Prod.mk.injEq, true_and]
    exact ⟨_, frame, _, partition, by rw [← orderBy]⟩

theorem functionSql_eq_ok {d : Dialect} {render : Expr → Except Failure String} {c : Call}
    {f : WindowFunction} {t : String} :
    c.functionSql d render f = .ok t ↔ ∃ name args, d.function? f.sqlName = some name ∧
      (c.writtenArgs f).mapM render = .ok args ∧
      t = name ++ if args.isEmpty && f.starWhenEmpty then "(*)"
        else "(" ++ ", ".intercalate args ++ ")" := by
  unfold functionSql
  cases d.function? f.sqlName with
  | none => simp
  | some name =>
    simp only [bind_eq_ok, Option.some.injEq, exists_and_left, exists_eq_left']
    refine exists_congr fun args => and_congr_right fun _ => ?_
    split <;> simp [eq_comm, String.append_assoc]

end Call

/-- The clauses of a window, where its keys and its frame are written. -/
def Window.clauses (d : Dialect) (w : Window) (keys frame : List String) : List String :=
  (if w.partitionBy.isEmpty then []
    else ["PARTITION BY " ++ ", ".intercalate (w.partitionBy.map d.reference)]) ++
  (if keys.isEmpty then [] else ["ORDER BY " ++ ", ".intercalate keys]) ++ frame

theorem Window.sql_eq_ok {l : Limits} {d : Dialect} {render : Expr → Except Failure String}
    {frames : Bool} {w : Window} {t : String} :
    w.sql l d render frames = .ok t ↔ ∃ keys frame, w.orderBy.mapM (·.sql render) = .ok keys ∧
      w.frameClause l frames = .ok frame ∧ t = " ".intercalate (w.clauses d keys frame) := by
  simp only [Window.sql, bind_eq_ok, LongInteger.lift_eq_ok, pure_eq_ok, Except.ok.injEq,
    exists_and_left]
  refine exists_congr fun keys => and_congr_right fun _ => ?_
  exact exists_congr fun frame => and_congr_right fun _ => eq_comm

namespace Call

theorem windowColumn_eq_ok {l : Limits} {d : Dialect} {render : Expr → Except Failure String}
    {context : Context} {inWindow : Bool} {f : WindowFunction} {c : Call} {w : WindowColumn} :
    c.windowColumn l d render context inWindow f = .ok w ↔
      c.window f context inWindow = .ok (w.category, w.window) ∧
      c.functionSql d render f = .ok w.functionSql ∧
      w.window.sql l d render context.profile.frames = .ok w.overSql := by
  simp only [windowColumn, bind_eq_ok, pure_eq_ok, Except.ok.injEq]
  constructor
  · rintro ⟨⟨category, window⟩, found, _, function, _, text, rfl⟩
    exact ⟨found, function, text⟩
  · rintro ⟨found, function, text⟩
    exact ⟨(w.category, w.window), found, _, function, _, text, rfl⟩

/-- A call that has a window has the same one where its aggregate is computed over its partition. -/
theorem window_inWindow {c : Call} {f : WindowFunction} {context : Context} {inWindow : Bool}
    {category : Category} {w : Window}
    (h : c.window f context inWindow = .ok (category, w)) :
    c.window f context true = .ok (category, w) := by
  obtain ⟨found, rest⟩ := window_eq_ok.mp h
  refine window_eq_ok.mpr ⟨?_, rest⟩
  unfold Call.category at found ⊢
  by_cases plain : f.category ≠ .plain
  · rwa [if_pos plain] at found ⊢
  · rw [if_neg plain] at found ⊢
    split at found
    · simpa using found
    · cases found

end Call

theorem Setting.windowColumn_inWindow {s : Setting} {inWindow : Bool} {c : Call}
    {w : WindowColumn} (h : s.windowColumn inWindow c = .ok w) : s.windowColumn true c = .ok w := by
  simp only [windowColumn, windowColumnIn, bind_eq_ok, lift_eq_ok, Call.windowColumn_eq_ok] at h ⊢
  obtain ⟨f, found, window, texts⟩ := h
  exact ⟨f, found, Call.window_inWindow window, texts⟩

/-- Partitions that are all one are no several partitions. -/
theorem checkPartitions_of_forall_eq {partitions : List (List String)} {p : List String}
    (h : ∀ q ∈ partitions, q = p) : checkPartitions partitions = .ok () := by
  have short : partitions.eraseDups.length ≤ 1 := by
    rw [List.eq_replicate_of_mem h]
    cases partitions.length with
    | zero => simp
    | succ n => simp [List.replicate_succ, List.eraseDups_cons]
  simp [checkPartitions, Nat.not_lt.mpr short]

/-- All windows of a context have its partition. -/
theorem Setting.checkPartitions_of_windowColumns {s : Setting} {calls : List (Call × Bool)}
    {columns : List WindowColumn} (h : calls.mapM (fun p => s.windowColumn p.2 p.1) = .ok columns) :
    checkPartitions (columns.map (·.window.partitionBy)) = .ok () := by
  have partition (w : WindowColumn) (hw : w ∈ columns) :
      (Schema.partitionNames s.context.partition).mapError Failure.window =
        .ok w.window.partitionBy := by
    obtain ⟨p, -, column⟩ := exists_of_mem_of_mapM_eq_ok h hw
    simp only [windowColumn, windowColumnIn, bind_eq_ok, lift_eq_ok, Call.windowColumn_eq_ok,
      Call.window_eq_ok] at column
    obtain ⟨_, _, ⟨-, -, -, -, partition⟩, -⟩ := column
    exact partition
  cases columns with
  | nil => rfl
  | cons w rest =>
    refine checkPartitions_of_forall_eq (p := w.window.partitionBy) fun q hq => ?_
    obtain ⟨w', hw', rfl⟩ := List.mem_map.mp hq
    have same := (partition w' hw').symm.trans (partition w List.mem_cons_self)
    exact Except.ok.inj same

end WindowSql
