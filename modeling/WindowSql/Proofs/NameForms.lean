import Mathlib.Data.List.DropRight
import WindowSql.Function.Catalog

/-!
# Forms of names

A name is looked up without the blanks around it and in lower case.

* `Settled`: the characters that lower case leaves as they are. What it makes of a character is
  settled, because no image of a run lies on a run;
* `lower_lower`, `strip_strip`: each of the two steps is done once;
* `lower_strip`: the two steps may be taken in either order: a blank is settled, tells nothing of
  the word beside it, and comes of no other character;
* `Catalog.key_eq_self_iff`: the names that are looked up as they stand.
-/

namespace WindowSql.Text

/-- Lower case leaves the character as it is. -/
def Settled (c : Char) : Prop := lowerChar c = [c]

instance (c : Char) : Decidable (Settled c) := inferInstanceAs (Decidable (lowerChar c = [c]))

theorem Settled.ne_sigma {c : Char} (h : Settled c) : c ≠ 'Σ' := by
  rintro rfl
  exact absurd h (by decide)

theorem toNat_ofNat {n : Nat} (h : n.isValidChar) : (Char.ofNat n).toNat = n := by
  rw [Char.ofNat, dif_pos h]
  rfl

def blankCodes : List Nat :=
  [0x9, 0xa, 0xb, 0xc, 0xd, 0x1c, 0x1d, 0x1e, 0x1f, 0x20, 0x85, 0xa0, 0x1680, 0x2000, 0x2001,
   0x2002, 0x2003, 0x2004, 0x2005, 0x2006, 0x2007, 0x2008, 0x2009, 0x200a, 0x2028, 0x2029, 0x202f,
   0x205f, 0x3000]

theorem isBlank_iff_mem_blankCodes {c : Char} : isBlank c = true ↔ c.toNat ∈ blankCodes := by
  simp only [isBlank, isWhiteSpace, blankCodes, Bool.or_eq_true, Bool.and_eq_true,
    decide_eq_true_eq, beq_iff_eq, List.mem_cons, List.not_mem_nil, or_false]
  omega

/-- A blank is settled and has no case. -/
theorem blank_uncased {c : Char} (h : isBlank c = true) : Settled c ∧ isCased c = false := by
  have all : ∀ n ∈ blankCodes, Settled (Char.ofNat n) ∧ isCased (Char.ofNat n) = false := by
    decide +kernel
  have this := all _ (isBlank_iff_mem_blankCodes.mp h)
  rwa [Char.ofNat_toNat] at this

namespace CaseRun

def low (r : CaseRun) : Nat := (r.first + r.shift).toNat

def high (r : CaseRun) : Nat := (r.last + r.shift).toNat

/-- No image of a run lies on another run: it ends before the other one or starts behind it, or
both take every second code point and never the same. -/
def apart (r r' : CaseRun) : Bool :=
  r.high.blt r'.first || r'.last.blt r.low ||
    (r.first == r.last || r.step == 2) && r'.step == 2 && (r.low + r'.first) % 2 == 1

/-- The images of a run are characters, and no blanks. They are beyond ASCII and not the capital
that has two images; the letter that the Kelvin sign becomes is the exception. -/
def plain (r : CaseRun) : Bool :=
  r.low == 0x6b && r.high == 0x6b ||
    (0x80).ble r.low && (r.high.blt 0x130 || (0x130).blt r.low) &&
      (r.high.blt 0xd800 || (0xdfff).blt r.low && r.high.blt 0x110000) &&
      blankCodes.all fun n => r.high.blt n || n.blt r.low

theorem apart_of_mem {r r' : CaseRun} (h : r ∈ lowerRuns) (h' : r' ∈ lowerRuns) :
    r.apart r' = true := by
  have all : (lowerRuns.all fun r => lowerRuns.all r.apart) = true := by
    decide +kernel
  exact List.all_eq_true.mp (List.all_eq_true.mp all r h) r' h'

theorem plain_of_mem {r : CaseRun} (h : r ∈ lowerRuns) : r.plain = true := by
  have all : lowerRuns.all plain = true := by
    decide +kernel
  exact List.all_eq_true.mp all r h

theorem image?_bounds {r : CaseRun} {n m : Nat} (h : r.image? n = some m) :
    r.low ≤ m ∧ m ≤ r.high := by
  unfold image? at h
  split at h
  · cases h
    unfold low high
    omega
  · cases h

/-- The images of every second code point are every second code point. -/
theorem image?_mod {r : CaseRun} {n m : Nat} (h : r.image? n = some m) (positive : 0 < r.low)
    (sparse : r.first = r.last ∨ r.step = 2) : m % 2 = r.low % 2 := by
  unfold image? at h
  unfold low at positive ⊢
  split at h
  next on =>
    obtain ⟨k, rfl⟩ : ∃ k, n = r.first + 2 * k := by
      rcases sparse with single | sparse
      · exact ⟨0, by omega⟩
      · rw [sparse] at on
        exact ⟨(n - r.first) / 2, by omega⟩
    cases h
    omega
  next => cases h

theorem image?_eq_none_of_apart {r r' : CaseRun} {n m : Nat} (separate : r.apart r' = true)
    (positive : 0 < r.low) (h : r.image? n = some m) : r'.image? m = none := by
  obtain ⟨least, greatest⟩ := image?_bounds h
  simp only [apart, Bool.or_eq_true, Bool.and_eq_true, Nat.blt_eq, beq_iff_eq] at separate
  apply if_neg
  rintro ⟨first, last, on⟩
  rcases separate with (before | behind) | ⟨⟨sparse, sparse'⟩, odd⟩
  · omega
  · omega
  · have parity := image?_mod h positive sparse
    rw [sparse'] at on
    omega

end CaseRun

/-- What a run makes of a code point is settled and not blank. -/
theorem image_settled {n m : Nat} (h : lowerRuns.findSome? (·.image? n) = some m) :
    Settled (Char.ofNat m) ∧ isBlank (Char.ofNat m) = false := by
  obtain ⟨r, run, image⟩ := List.exists_of_findSome?_eq_some h
  obtain ⟨least, greatest⟩ := CaseRun.image?_bounds image
  have plain := CaseRun.plain_of_mem run
  simp only [CaseRun.plain, Bool.or_eq_true, Bool.and_eq_true, beq_iff_eq, Nat.ble_eq, Nat.blt_eq,
    List.all_eq_true] at plain
  rcases plain with ⟨low, high⟩ | ⟨⟨⟨beyond, single⟩, character⟩, visible⟩
  · obtain rfl : m = 0x6b := by omega
    decide
  · have code : (Char.ofNat m).toNat = m := by
      apply toNat_ofNat
      unfold Nat.isValidChar
      omega
    have fixed : lowerRuns.findSome? (·.image? m) = none := by
      apply List.findSome?_eq_none_iff.mpr
      intro r' run'
      exact CaseRun.image?_eq_none_of_apart (CaseRun.apart_of_mem run run') (by omega) image
    constructor
    · rw [Settled, lowerChar, code, if_neg (by omega), if_neg (by omega), shiftBy, fixed]
      rfl
    · apply eq_false_of_ne_true
      intro blank
      rw [isBlank_iff_mem_blankCodes, code] at blank
      have := visible m blank
      omega

theorem toLower_settled {c : Char} (ascii : c.toNat < 0x80) :
    Settled c.toLower ∧ (isBlank c = false → isBlank c.toLower = false) := by
  have all : ∀ n < 0x80, Settled (Char.ofNat n).toLower ∧
      (isBlank (Char.ofNat n) = false → isBlank (Char.ofNat n).toLower = false) := by
    decide +kernel
  have this := all _ ascii
  rwa [Char.ofNat_toNat] at this

/-- Lower case makes settled characters of each character, and none of them blank of one that is
not. -/
theorem lowerChar_settled {c d : Char} (h : d ∈ lowerChar c) :
    Settled d ∧ (isBlank c = false → isBlank d = false) := by
  by_cases small : c.toNat < 0x80
  · rw [lowerChar, if_pos small, List.mem_singleton] at h
    subst h
    exact toLower_settled small
  · by_cases two : c.toNat = 0x130
    · rw [lowerChar, if_neg small, if_pos two] at h
      simp only [List.mem_cons, List.not_mem_nil, or_false] at h
      rcases h with rfl | rfl
      · exact ⟨by decide, fun _ => by decide⟩
      · exact ⟨by decide, fun _ => by decide⟩
    · cases run : lowerRuns.findSome? (·.image? c.toNat) with
      | none =>
        have settled : lowerChar c = [c] := by
          rw [lowerChar, if_neg small, if_neg two, shiftBy, run, Option.getD_none, Char.ofNat_toNat]
        rw [settled, List.mem_singleton] at h
        subst h
        exact ⟨settled, id⟩
      | some m =>
        rw [lowerChar, if_neg small, if_neg two, shiftBy, run, Option.getD_some,
          List.mem_singleton] at h
        subst h
        obtain ⟨settled, visible⟩ := image_settled run
        exact ⟨settled, fun _ => visible⟩

theorem lowerChar_ne_nil (c : Char) : lowerChar c ≠ [] := by
  rw [lowerChar]
  split_ifs <;> nofun

/-- What lower case makes of a character between others. -/
def imageIn (before : List Char) (c : Char) (rest : List Char) : List Char :=
  if c = 'Σ' then [if startsCased before && !startsCased rest then 'ς' else 'σ'] else lowerChar c

theorem lowerFrom_cons (before : List Char) (c : Char) (rest : List Char) :
    lowerFrom before (c :: rest) = imageIn before c rest ++ lowerFrom (c :: before) rest := rfl

theorem imageIn_of_settled {c : Char} (h : Settled c) (before rest : List Char) :
    imageIn before c rest = [c] := by
  rw [imageIn, if_neg h.ne_sigma]
  exact h

theorem imageIn_settled {before rest : List Char} {c d : Char} (h : d ∈ imageIn before c rest) :
    Settled d ∧ (isBlank c = false → isBlank d = false) := by
  unfold imageIn at h
  split at h
  · rw [List.mem_singleton] at h
    split at h
    · subst h
      exact ⟨by decide, fun _ => by decide⟩
    · subst h
      exact ⟨by decide, fun _ => by decide⟩
  · exact lowerChar_settled h

theorem imageIn_ne_nil (before : List Char) (c : Char) (rest : List Char) :
    imageIn before c rest ≠ [] := by
  unfold imageIn
  split
  · nofun
  · exact lowerChar_ne_nil c

theorem lowerFrom_settled {before cs : List Char} {d : Char} (h : d ∈ lowerFrom before cs) :
    Settled d := by
  induction cs generalizing before with
  | nil => cases h
  | cons c rest ih =>
    rw [lowerFrom_cons] at h
    rcases List.mem_append.mp h with image | later
    · exact (imageIn_settled image).1
    · exact ih later

theorem lowerFrom_of_settled {before cs : List Char} (h : ∀ c ∈ cs, Settled c) :
    lowerFrom before cs = cs := by
  induction cs generalizing before with
  | nil => rfl
  | cons c rest ih =>
    obtain ⟨first, others⟩ := List.forall_mem_cons.mp h
    rw [lowerFrom_cons, imageIn_of_settled first, ih others, List.singleton_append]

theorem lower_lower (s : String) : lower (lower s) = lower s := by
  rw [lower, lower, String.toList_ofList, lowerFrom_of_settled]
  exact fun _ => lowerFrom_settled

section
variable {blanks : List Char} (hb : ∀ c ∈ blanks, isBlank c = true)
include hb

theorem startsCased_append (cs : List Char) : startsCased (cs ++ blanks) = startsCased cs := by
  unfold startsCased
  rw [List.find?_append]
  cases cs.find? (!isCaseIgnorable ·) with
  | some c => rfl
  | none =>
    rw [Option.none_or]
    cases found : blanks.find? (!isCaseIgnorable ·) with
    | none => rfl
    | some c => exact (blank_uncased (hb c (List.mem_of_find?_eq_some found))).2

theorem lowerFrom_blanks (before : List Char) : lowerFrom before blanks = blanks :=
  lowerFrom_of_settled fun c hc => (blank_uncased (hb c hc)).1

/-- Blanks in front tell nothing of a word. -/
theorem lowerFrom_before_append (before cs : List Char) :
    lowerFrom (before ++ blanks) cs = lowerFrom before cs := by
  induction cs generalizing before with
  | nil => rfl
  | cons c rest ih =>
    rw [lowerFrom_cons, lowerFrom_cons, imageIn, imageIn, startsCased_append hb,
      ← List.cons_append, ih]

theorem lowerFrom_append (before cs : List Char) :
    lowerFrom before (cs ++ blanks) = lowerFrom before cs ++ blanks := by
  induction cs generalizing before with
  | nil => exact lowerFrom_blanks hb before
  | cons c rest ih =>
    rw [List.cons_append, lowerFrom_cons, lowerFrom_cons, ih, imageIn, imageIn,
      startsCased_append hb, List.append_assoc]

theorem lowerFrom_blanks_append {before : List Char} (h : ∀ c ∈ before, isBlank c = true)
    (cs : List Char) : lowerFrom before (blanks ++ cs) = blanks ++ lowerFrom [] cs := by
  induction blanks generalizing before with
  | nil => exact lowerFrom_before_append h [] cs
  | cons c rest ih =>
    obtain ⟨blank, others⟩ := List.forall_mem_cons.mp hb
    rw [List.cons_append, lowerFrom_cons, imageIn_of_settled (blank_uncased blank).1,
      ih others (List.forall_mem_cons.mpr ⟨blank, h⟩), List.singleton_append, List.cons_append]

end

section
variable {p : Char → Bool}

theorem trimWhile_append {front back : List Char} (hf : ∀ c ∈ front, p c = true)
    (hb : ∀ c ∈ back, p c = true) (cs : List Char) :
    trimWhile p (front ++ cs ++ back) = trimWhile p cs := by
  rw [trimWhile, trimWhile, List.append_assoc, List.dropWhile_append_of_pos hf,
    List.dropWhile_append]
  split
  next none =>
    rw [List.isEmpty_iff.mp none, List.dropWhile_eq_nil_iff.mpr hb]
  next =>
    rw [List.reverse_append, List.dropWhile_append_of_pos]
    exact fun c hc => hb c (List.mem_reverse.mp hc)

/-- What is taken off both ends. -/
theorem exists_eq_append_trimWhile (cs : List Char) : ∃ front back, (∀ c ∈ front, p c = true) ∧
    (∀ c ∈ back, p c = true) ∧ cs = front ++ trimWhile p cs ++ back := by
  refine ⟨cs.takeWhile p, (cs.dropWhile p).rtakeWhile p, fun c => List.mem_takeWhile_imp,
    fun c => List.mem_rtakeWhile_imp, ?_⟩
  have back : trimWhile p cs ++ (cs.dropWhile p).rtakeWhile p = cs.dropWhile p :=
    List.rdropWhile_append_rtakeWhile
  rw [List.append_assoc, back, List.takeWhile_append_dropWhile]

theorem trimWhile_trimWhile (cs : List Char) : trimWhile p (trimWhile p cs) = trimWhile p cs := by
  obtain ⟨front, back, hf, hb, split⟩ := exists_eq_append_trimWhile (p := p) cs
  calc
    trimWhile p (trimWhile p cs) = trimWhile p (front ++ trimWhile p cs ++ back) :=
      (trimWhile_append hf hb _).symm
    _ = trimWhile p cs := by rw [← split]

end

theorem exists_eq_append_strip (s : String) : ∃ front back : String,
    (∀ c ∈ front.toList, isBlank c = true) ∧ (∀ c ∈ back.toList, isBlank c = true) ∧
      s = front ++ strip s ++ back := by
  obtain ⟨front, back, hf, hb, split⟩ := exists_eq_append_trimWhile (p := isBlank) s.toList
  refine ⟨String.ofList front, String.ofList back, by simpa using hf, by simpa using hb, ?_⟩
  rw [strip, ← String.ofList_append, ← String.ofList_append, ← split, String.ofList_toList]

theorem strip_append {front back : String} (hf : ∀ c ∈ front.toList, isBlank c = true)
    (hb : ∀ c ∈ back.toList, isBlank c = true) (s : String) :
    strip (front ++ s ++ back) = strip s := by
  rw [strip, strip, String.toList_append, String.toList_append, trimWhile_append hf hb]

theorem strip_strip (s : String) : strip (strip s) = strip s := by
  rw [strip, strip, String.toList_ofList, trimWhile_trimWhile]

/-- The blanks that lower case starts with are those that the text starts with. -/
theorem dropWhile_lowerFrom (cs : List Char) :
    (lowerFrom [] cs).dropWhile isBlank = lowerFrom [] (cs.dropWhile isBlank) := by
  have blanks : ∀ c ∈ cs.takeWhile isBlank, isBlank c = true := fun c => List.mem_takeWhile_imp
  have split : lowerFrom [] cs = cs.takeWhile isBlank ++ lowerFrom [] (cs.dropWhile isBlank) := by
    rw [← lowerFrom_blanks_append blanks (List.forall_mem_nil _), List.takeWhile_append_dropWhile]
  rw [split, List.dropWhile_append_of_pos blanks]
  cases word : cs.dropWhile isBlank with
  | nil => rfl
  | cons c rest =>
    have first : isBlank c = false := by
      have head := List.head?_dropWhile_not isBlank cs
      rwa [word] at head
    obtain ⟨d, image, same⟩ := List.exists_cons_of_ne_nil (imageIn_ne_nil [] c rest)
    have visible := (imageIn_settled (same ▸ List.mem_cons_self)).2 first
    rw [lowerFrom_cons, same, List.cons_append, List.dropWhile_cons_of_neg (by simp [visible])]

theorem lowerFrom_concat (before cs : List Char) (c : Char) :
    ∃ front last, lowerFrom before (cs ++ [c]) = front ++ [last] ∧
      (isBlank c = false → isBlank last = false) := by
  induction cs generalizing before with
  | nil =>
    obtain ⟨front, last, same⟩ :=
      (List.eq_nil_or_concat' (imageIn before c [])).resolve_left (imageIn_ne_nil before c [])
    have image : last ∈ imageIn before c [] := by simp [same]
    refine ⟨front, last, ?_, (imageIn_settled image).2⟩
    rw [List.nil_append, lowerFrom_cons, same, lowerFrom, List.append_nil]
  | cons d rest ih =>
    obtain ⟨front, last, same, visible⟩ := ih (d :: before)
    refine ⟨imageIn before d (rest ++ [c]) ++ front, last, ?_, visible⟩
    rw [List.cons_append, lowerFrom_cons, same, List.append_assoc]

/-- The blanks that lower case ends with are those that the text ends with. -/
theorem rdropWhile_lowerFrom (before cs : List Char) :
    (lowerFrom before cs).rdropWhile isBlank = lowerFrom before (cs.rdropWhile isBlank) := by
  induction cs using List.reverseRecOn with
  | nil => rfl
  | append_singleton cs c ih =>
    by_cases blank : isBlank c = true
    · rw [lowerFrom_append (by simpa using blank), List.rdropWhile_concat_pos _ _ _ blank,
        List.rdropWhile_concat_pos _ _ _ blank, ih]
    · obtain ⟨front, last, same, visible⟩ := lowerFrom_concat before cs c
      rw [List.rdropWhile_concat_neg _ _ _ blank, same, List.rdropWhile_concat_neg]
      simp [visible (eq_false_of_ne_true blank)]

/-- The blanks around a text may be taken off before or after its letters are made small. -/
theorem lower_strip (s : String) : lower (strip s) = strip (lower s) := by
  have trimmed (cs : List Char) :
      trimWhile isBlank cs = (cs.dropWhile isBlank).rdropWhile isBlank := rfl
  rw [lower, lower, strip, strip, String.toList_ofList, String.toList_ofList, trimmed, trimmed,
    dropWhile_lowerFrom, rdropWhile_lowerFrom]

theorem lower_append {front back : String} (hf : ∀ c ∈ front.toList, isBlank c = true)
    (hb : ∀ c ∈ back.toList, isBlank c = true) (s : String) :
    lower (front ++ s ++ back) = front ++ lower s ++ back := by
  rw [lower, lower, String.toList_append, String.toList_append, lowerFrom_append hb,
    lowerFrom_blanks_append hf (List.forall_mem_nil _), String.ofList_append, String.ofList_append,
    String.ofList_toList, String.ofList_toList]

/-- Lower case adds no blanks to a text and takes none away. -/
theorem strip_lower_eq_self_iff {s : String} : strip (lower s) = lower s ↔ strip s = s := by
  constructor
  · intro stripped
    obtain ⟨front, back, hf, hb, split⟩ := exists_eq_append_strip s
    have same : lower s = front ++ lower s ++ back := by
      calc
        lower s = lower (front ++ strip s ++ back) := by rw [← split]
        _ = front ++ lower (strip s) ++ back := lower_append hf hb _
        _ = front ++ lower s ++ back := by rw [lower_strip, stripped]
    have sizes := congrArg String.length same
    simp only [String.length_append] at sizes
    obtain rfl : front = "" := String.length_eq_zero_iff.mp (by omega)
    obtain rfl : back = "" := String.length_eq_zero_iff.mp (by omega)
    rw [String.empty_append, String.append_empty] at split
    exact split.symm
  · intro stripped
    rw [← lower_strip, stripped]

end WindowSql.Text

namespace WindowSql.Catalog

theorem key_key (name : String) : key (key name) = key name := by
  rw [key, key, ← Text.lower_strip, Text.strip_strip, Text.lower_lower]

theorem key_lower (name : String) : key (Text.lower name) = key name := by
  rw [key, key, Text.lower_strip, Text.lower_strip, Text.lower_lower]

theorem key_eq_self_iff {name : String} :
    key name = name ↔ Text.lower name = name ∧ Text.strip name = name := by
  constructor
  · intro same
    have stripped : Text.strip name = name := by
      rw [← same, key, Text.lower_strip, Text.strip_strip]
    rw [key, stripped] at same
    exact ⟨same, stripped⟩
  · rintro ⟨small, stripped⟩
    rw [key, stripped, small]

end WindowSql.Catalog
