import WindowSql.Proofs.LongIntegers
import WindowSql.Proofs.Windows

/-!
# Frames of windows

The category of a function decides which rows it is computed over, and that is what its window says
in every profile:

* `rollingFrame_eq_ok`, `frame_eq_ok`: the frames that there are, and where they can be written;
* `WindowFunction.Framed`: the frame that a function has, and the clause for it;
* `Window.clauses_eq`: the text of a window is its partition, its ordering and that clause;
* `Window.Covers`, `covers_iff`: the rows that SQL computes a window function over, which are those
  of the clause or, without one, those up to the last peer of the current row;
* `frame_written`: a window that is computed has the frame of its function, is written with the
  clause for it wherever the profile has frames, and covers the rows of the frame without one too.
-/

namespace WindowSql

/-- The rows that a function is computed over, as a frame and as a clause of SQL. -/
inductive WindowFunction.Framed (f : WindowFunction) (profile : Profile) :
    Option Frame → List String → Prop where
  | unframed (category : f.category = .ranking ∨ f.category = .offset) : Framed f profile none []
  | running (category : f.category = .cumulative) :
    Framed f profile (some ⟨⟨.unboundedPreceding, none⟩, ⟨.currentRow, none⟩⟩)
      ["ROWS BETWEEN UNBOUNDED PRECEDING AND CURRENT ROW"]
  | around {k : Int} (category : f.category = .rolling) (before : f.preceding = some k)
      (after : f.following = some k) (nonneg : 0 ≤ k)
      (limit : ∀ limit ∈ profile.maxFrameOffset, k ≤ limit) :
    Framed f profile (some ⟨⟨.preceding, some k⟩, ⟨.following, some k⟩⟩)
      ["ROWS BETWEEN " ++ toString k ++ " PRECEDING AND " ++ toString k ++ " FOLLOWING"]
  | whole (category : f.category = .recycled ∨ f.category = .plain) :
    Framed f profile (some ⟨⟨.unboundedPreceding, none⟩, ⟨.unboundedFollowing, none⟩⟩)
      ["ROWS BETWEEN UNBOUNDED PRECEDING AND UNBOUNDED FOLLOWING"]

theorem WindowFunction.Framed.isSome {f : WindowFunction} {profile : Profile}
    {frame? : Option Frame} {clause : List String} (framed : f.Framed profile frame? clause)
    (kind : f.category = .cumulative ∨ f.category = .rolling) : frame?.isSome = true := by
  cases framed with
  | unframed category =>
    rcases kind with kind | kind <;> rw [kind] at category <;> simp at category
  | running | around | whole => rfl

theorem WindowFunction.rollingFrame_eq_ok {f : WindowFunction} {profile : Profile} {frame : Frame} :
    f.rollingFrame profile = .ok frame ↔ ∃ k, f.preceding = some k ∧ f.following = some k ∧
      0 ≤ k ∧ (∀ limit ∈ profile.maxFrameOffset, k ≤ limit) ∧ frame = .around k k := by
  unfold rollingFrame
  cases f.preceding with
  | none => simp
  | some before =>
    cases f.following with
    | none => simp
    | some after =>
      by_cases same : before = after
      · subst same
        by_cases negative : before < 0
        · simp [negative, Int.not_le.mpr negative]
        · cases profile.maxFrameOffset with
          | none => simp [negative, Int.not_lt.mp negative, eq_comm]
          | some limit =>
            by_cases wide : limit < before
            · simp [negative, wide, Int.not_le.mpr wide]
            · simp [negative, wide, Int.not_lt.mp negative, Int.not_lt.mp wide, eq_comm]
      · simp only [ne_eq, same, not_false_eq_true, ↓reduceIte, reduceCtorEq, Option.some.injEq,
          false_iff]
        rintro ⟨k, rfl, rfl, -⟩
        exact same rfl

theorem Frame.sql_around {l : Limits} {before after : Int} {t : String}
    (h : (around before after).sql l = .ok t) :
    t = "ROWS BETWEEN " ++ toString before ++ " PRECEDING AND " ++ toString after ++
      " FOLLOWING" := by
  have between : " PRECEDING AND " = " PRECEDING" ++ " AND " := rfl
  simp only [Frame.sql, around, FrameBound.sql, bind_eq_ok, map_eq_ok, l.text_eq_ok, pure_eq_ok,
    Except.ok.injEq] at h
  obtain ⟨_, ⟨_, ⟨-, rfl⟩, rfl⟩, _, ⟨_, ⟨-, rfl⟩, rfl⟩, rfl⟩ := h
  rw [between]
  simp only [String.append_assoc]

namespace Call
variable {c : Call} {f : WindowFunction} {context : Context} {inWindow : Bool} {category : Category}

/-- A plain aggregate that has a window is computed over its partition. -/
theorem category_of_eq_ok (h : c.category f context inWindow = .ok category) :
    category = if f.category = .plain then .recycled else f.category := by
  unfold Call.category at h
  by_cases plain : f.category = .plain
  · simp only [plain, ne_eq, not_true_eq_false, ↓reduceIte] at h ⊢
    split at h
    · exact (Except.ok.inj h).symm
    · cases h
  · simp only [plain, ne_eq, not_false_eq_true, ↓reduceIte] at h ⊢
    exact (Except.ok.inj h).symm

theorem frame_eq_ok {profile : Profile} {ordered : Bool} {frame? : Option Frame} :
    c.frame f category profile ordered = .ok frame? ↔ f.frameOf category profile = .ok frame? ∧
      (frame?.isSome = true → frameFits category profile ordered = true) := by
  unfold frame
  cases f.frameOf category profile with
  | error refusal => simp
  | ok given =>
    cases given with
    | none =>
      simp only [Except.ok.injEq]
      constructor
      · rintro rfl
        simp
      · exact And.left
    | some frame =>
      by_cases fits : frameFits category profile ordered = true
      · simp [fits]
      · simp only [fits, Bool.false_eq_true, ↓reduceIte, reduceCtorEq, Except.ok.injEq,
          false_iff]
        rintro ⟨rfl, fits'⟩
        exact fits' rfl

/-- The frame of a window is that of the function. -/
theorem exists_framed {profile : Profile} {ordered : Bool} {frame? : Option Frame}
    (found : c.category f context inWindow = .ok category)
    (h : c.frame f category profile ordered = .ok frame?) :
    ∃ clause, f.Framed profile frame? clause ∧
      ∀ l written, frame?.toList.mapM (Frame.sql l) = .ok written → written = clause := by
  have given : f.frameOf f.category profile = .ok frame? := by
    have own := (frame_eq_ok.mp h).1
    rw [category_of_eq_ok found] at own
    by_cases plain : f.category = .plain
    · simpa [plain, WindowFunction.frameOf] using own
    · simpa [plain] using own
  cases kind : f.category <;> rw [kind] at given
  case ranking =>
    obtain rfl := Except.ok.inj given
    exact ⟨_, .unframed (.inl kind), fun _ _ written => (Except.ok.inj written).symm⟩
  case offset =>
    obtain rfl := Except.ok.inj given
    exact ⟨_, .unframed (.inr kind), fun _ _ written => (Except.ok.inj written).symm⟩
  case cumulative =>
    obtain rfl := Except.ok.inj given
    exact ⟨_, .running kind, fun _ _ written => (Except.ok.inj written).symm⟩
  case rolling =>
    obtain ⟨frame, rolled, rfl⟩ := map_eq_ok.mp given
    obtain ⟨k, before, after, nonneg, limit, rfl⟩ := WindowFunction.rollingFrame_eq_ok.mp rolled
    refine ⟨_, .around kind before after nonneg limit, fun l written run => ?_⟩
    obtain ⟨t, rest, text, others, rfl⟩ := List.forall₂_cons_left_iff.mp (mapM_eq_ok.mp run)
    cases others
    rw [Frame.sql_around text]
  case recycled =>
    obtain rfl := Except.ok.inj given
    exact ⟨_, .whole (.inl kind), fun _ _ written => (Except.ok.inj written).symm⟩
  case plain =>
    obtain rfl := Except.ok.inj given
    exact ⟨_, .whole (.inr kind), fun _ _ written => (Except.ok.inj written).symm⟩

/-- Without frames the one frame that is left is the whole partition, where nothing is ordered. -/
theorem frameless {w : Window} (h : c.window f context inWindow = .ok (category, w))
    (frames : context.profile.frames = false) (framed : w.frame.isSome = true) :
    category = .recycled ∧ w.orderBy = [] ∧ w.frame = some .partition := by
  obtain ⟨-, -, -, frame, -⟩ := window_eq_ok.mp h
  obtain ⟨given, fits⟩ := frame_eq_ok.mp frame
  have bare : category = .recycled ∧ w.orderBy = [] := by
    simpa [frameFits, frames] using fits framed
  obtain ⟨rfl, unordered⟩ := bare
  exact ⟨rfl, unordered, (Except.ok.inj given).symm⟩

/-- Without frames an aggregate over its partition has no ordering. -/
theorem orderBy_of_frameless {w : Window} (h : c.window f context inWindow = .ok (.recycled, w))
    (frames : context.profile.frames = false) : w.orderBy = [] := by
  obtain ⟨-, -, -, frame, -⟩ := window_eq_ok.mp h
  have given : some Frame.partition = w.frame := Except.ok.inj (frame_eq_ok.mp frame).1
  have framed : w.frame.isSome = true := by
    rw [← given]
    rfl
  exact (frameless h frames framed).2.1

end Call

/-- The clauses of a window that say nothing of its frame, where its keys are written. -/
def Window.heading (d : Dialect) (w : Window) (keys : List String) : List String :=
  (if w.partitionBy = [] then []
    else ["PARTITION BY " ++ ", ".intercalate (w.partitionBy.map d.reference)]) ++
  if keys = [] then [] else ["ORDER BY " ++ ", ".intercalate keys]

theorem Window.clauses_eq (d : Dialect) (w : Window) (keys frame : List String) :
    w.clauses d keys frame = w.heading d keys ++ frame := by
  simp [clauses, heading]

theorem Window.frameClause_eq (l : Limits) (frames : Bool) (w : Window) :
    w.frameClause l frames =
      if frames = true then w.frame.toList.mapM (Frame.sql l) else .ok [] := by
  unfold frameClause
  cases w.frame with
  | none => cases frames <;> rfl
  | some f =>
    cases frames with
    | false => rfl
    | true =>
      simp only [↓reduceIte, Option.toList_some, List.mapM_cons]
      cases f.sql l <;> rfl

/-- A frame that begins with the bound has begun at a row, where rows have their numbers in the
partition. -/
def FrameBound.Begun (b : FrameBound) (current row : Int) : Prop :=
  match b.kind with
  | .unboundedPreceding => True
  | .preceding => current - b.offset.getD 0 ≤ row
  | .currentRow => current ≤ row
  | .following => current + b.offset.getD 0 ≤ row
  | .unboundedFollowing => False

/-- A frame that ends with the bound has not ended before a row. -/
def FrameBound.Lasts (b : FrameBound) (current row : Int) : Prop :=
  match b.kind with
  | .unboundedPreceding => False
  | .preceding => row ≤ current - b.offset.getD 0
  | .currentRow => row ≤ current
  | .following => row ≤ current + b.offset.getD 0
  | .unboundedFollowing => True

/-- The rows of the partition that a frame covers at the current one. -/
def Frame.Covers (f : Frame) (current row : Int) : Prop :=
  f.start.Begun current row ∧ f.stop.Lasts current row

/-- The rows that SQL covers where no frame is written: all up to the current one, and its peers,
which no key of the ordering tells from it. -/
def Window.CoversUnframed (w : Window) (ties : OrderKey → Int → Int → Prop) (current row : Int) :
    Prop :=
  row ≤ current ∨ ∀ k ∈ w.orderBy, ties k current row

/-- The rows that SQL covers for a window that is written with its frame or without. -/
def Window.Covers (w : Window) (frames : Bool) (ties : OrderKey → Int → Int → Prop)
    (current row : Int) : Prop :=
  match w.frame with
  | some f => if frames = true then f.Covers current row else w.CoversUnframed ties current row
  | none => w.CoversUnframed ties current row

namespace Call
variable {c : Call} {f : WindowFunction} {context : Context} {inWindow : Bool} {category : Category}
  {w : Window}

/-- Without frames no function is computed over rows that only a frame can tell. -/
theorem category_of_frameless (h : c.window f context inWindow = .ok (category, w))
    (frames : context.profile.frames = false) :
    f.category ≠ .cumulative ∧ f.category ≠ .rolling := by
  obtain ⟨found, -, -, frame, -⟩ := window_eq_ok.mp h
  obtain ⟨clause, framed, -⟩ := exists_framed found frame
  have none (kind : f.category = .cumulative ∨ f.category = .rolling) : False := by
    have recycled := (frameless h frames (framed.isSome kind)).1
    rw [category_of_eq_ok found] at recycled
    rcases kind with kind | kind <;> simp [kind] at recycled
  exact ⟨fun kind => none (.inl kind), fun kind => none (.inr kind)⟩

/-- The rows of a window are those of its frame, be that written or not. -/
theorem covers_iff {frame : Frame} (h : c.window f context inWindow = .ok (category, w))
    (mem : w.frame = some frame) (ties : OrderKey → Int → Int → Prop) (current row : Int) :
    w.Covers context.profile.frames ties current row ↔ frame.Covers current row := by
  by_cases frames : context.profile.frames = true
  · simp only [Window.Covers, mem, frames, ↓reduceIte]
  · -- nothing is ordered, so every row is a peer of the current one
    have framed : w.frame.isSome = true := by rw [mem, Option.isSome_some]
    obtain ⟨-, unordered, whole⟩ := frameless h (by simpa using frames) framed
    obtain rfl := Option.some.inj (mem.symm.trans whole)
    simp [Window.Covers, Window.CoversUnframed, mem, frames, unordered, Frame.Covers,
      Frame.partition, FrameBound.Begun, FrameBound.Lasts]

end Call

namespace Setting

/-- **A window has the frame of its function.** The function decides the frame, and the text of the
window is its partition, its ordering and the clause for that frame, which is left out where the
profile has no frames. There only rankings, offsets and aggregates over their partition have a
window, the last without an ordering. So whatever the profile, the rows that SQL covers for the
window are those of the frame. -/
theorem frame_written (s : Setting) {context : Context} {inWindow : Bool} {f : WindowFunction}
    {c : Call} {w : WindowColumn} (h : s.windowColumnIn context inWindow f c = .ok w) :
    w.category = (if f.category = .plain then .recycled else f.category) ∧
    (∃ clause keys, f.Framed context.profile w.window.frame clause ∧
      List.Forall₂ (fun k t =>
          k.sql (s.textWithin (c.toExpr.callDepth + context.orderDepth) false) = .ok t)
        w.window.orderBy keys ∧
      w.overSql = " ".intercalate (w.window.heading s.dialect keys ++
        if context.profile.frames = true then clause else [])) ∧
    (context.profile.frames = false → f.category ≠ .cumulative ∧ f.category ≠ .rolling ∧
      (w.category = .recycled → w.window.orderBy = [])) ∧
    ∀ frame ∈ w.window.frame, ∀ ties current row,
      w.window.Covers context.profile.frames ties current row ↔ frame.Covers current row := by
  obtain ⟨window, -, heading⟩ := Call.windowColumn_eq_ok.mp h
  obtain ⟨found, -, -, frame, -⟩ := Call.window_eq_ok.mp window
  obtain ⟨clause, framed, written⟩ := Call.exists_framed found frame
  refine ⟨Call.category_of_eq_ok found, ?_, ?_, ?_⟩
  · obtain ⟨keys, texts, ordering, clauses, text⟩ := Window.sql_eq_ok.mp heading
    refine ⟨clause, keys, framed, mapM_eq_ok.mp ordering, ?_⟩
    rw [Window.frameClause_eq] at clauses
    rw [text, Window.clauses_eq]
    split at clauses
    · rename_i frames
      rw [if_pos frames, written _ _ clauses]
    · rename_i frames
      rw [if_neg frames, Except.ok.inj clauses]
  · intro frames
    obtain ⟨cumulative, rolling⟩ := Call.category_of_frameless window frames
    refine ⟨cumulative, rolling, ?_⟩
    intro recycled
    rw [recycled] at window
    exact Call.orderBy_of_frameless window frames
  · intro given mem
    exact Call.covers_iff window (Option.mem_def.mp mem)

def sqliteByYear (profile : Profile) : Setting :=
  { dialect := .sqlite
    context :=
      { partition := [.str "playerID"]
        defaultOrder := some ⟨.column "yearID", .desc⟩
        profile := profile }
    options := default }

def twoRows : Setting := sqliteByYear { target := .sqlite, maxFrameOffset := some 2 }

def noFrames : Setting := sqliteByYear { target := .sqlite, frames := false }

def rollMean5 : WindowFunction := .rolling "roll_mean5" "avg" (some 2) (some 2)

def ofAtBats (func : String) : Call := ⟨func, [.column "AB"], none⟩

/-- A frame that just fits, and a sum that loses its ordering with its frame. -/
theorem frame_written_atBats :
    (∃ w, twoRows.windowColumnIn twoRows.context false rollMean5 (ofAtBats "roll_mean5") = .ok w ∧
      w.overSql = "PARTITION BY \"playerID\" ORDER BY \"yearID\" DESC " ++
        "ROWS BETWEEN 2 PRECEDING AND 2 FOLLOWING" ∧
      ∃ frame ∈ w.window.frame, ∀ ties current row,
        w.window.Covers true ties current row ↔ frame.Covers current row) ∧
    ∃ w, noFrames.windowColumnIn noFrames.context false (.aggregate "sum" "SUM")
        (ofAtBats "sum") = .ok w ∧
      w.overSql = "PARTITION BY \"playerID\"" ∧ w.window.orderBy = [] ∧
      ∀ ties current row,
        w.window.Covers false ties current row ↔ Frame.partition.Covers current row := by
  have rolled : twoRows.windowColumnIn twoRows.context false rollMean5 (ofAtBats "roll_mean5") =
      .ok _ := rfl
  have summed : noFrames.windowColumnIn noFrames.context false (.aggregate "sum" "SUM")
      (ofAtBats "sum") = .ok _ := rfl
  obtain ⟨-, -, -, around⟩ := frame_written twoRows rolled
  obtain ⟨-, -, bare, whole⟩ := frame_written noFrames summed
  obtain ⟨-, -, unordered⟩ := bare rfl
  exact ⟨⟨_, rolled, rfl, _, rfl, around _ rfl⟩, _, summed, rfl, unordered rfl, whole _ rfl⟩

end Setting

end WindowSql
