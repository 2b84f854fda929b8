import Mathlib.Algebra.Order.BigOperators.Group.List
import Mathlib.Algebra.Order.Group.Nat
import Mathlib.Data.Set.Finite.List
import WindowSql.Naming.Options
import WindowSql.Proofs.Outcomes

/-!
# Fields of templates

Which templates make new names for ever:

* `columnName_eq_ok`: a name is the texts of the segments of its template, one after the other;
* `exists_free_iff`: where a template makes a name of every counter, some of them is free from any
  counter on, whatever is taken, exactly where the texts of one of its fields get longer and longer;
* `counter_mem_fields`: a template that has the text of the counter's field, and no opening brace
  that is doubled or stands in a field, has that field.
-/

namespace WindowSql

open Template

namespace Options
variable {o : Options} {objects : Objects} {stem name : String} {n : Nat}

def segments (o : Options) : List Segment :=
  Template.segments (o.template.toList.length + 1) o.template.toList

def fields (o : Options) : List Field :=
  o.segments.filterMap fun
    | .field f => some f
    | _ => none

theorem mem_fields {f : Field} : f ∈ o.fields ↔ .field f ∈ o.segments := by
  simp only [fields, List.mem_filterMap]
  constructor
  · rintro ⟨s, hs, found⟩
    cases s with
    | field g =>
      cases found
      exact hs
    | char c => cases found
    | bad fault => cases found
  · exact fun hf => ⟨_, hf, rfl⟩

def segmentText (objects : Objects) (stem : String) (n : Nat) :
    Segment → Except TemplateFault (List Char) :=
  Segment.text ⟨stem, n, objects⟩ (write ⟨stem, n, objects⟩ 1)

theorem columnName_eq_ok :
    o.columnName objects stem n = .ok name ↔
      ∃ texts, o.segments.mapM (segmentText objects stem n) = .ok texts ∧
        name = String.ofList texts.flatten := by
  simp only [columnName, renderTemplate, write, map_eq_ok]
  constructor
  · rintro ⟨_, ⟨texts, written, rfl⟩, rfl⟩
    exact ⟨texts, written, rfl⟩
  · rintro ⟨texts, written, rfl⟩
    exact ⟨_, ⟨texts, written, rfl⟩, rfl⟩

/-- The text of a field stands in the name. -/
theorem infix_of_columnName (named : o.columnName objects stem n = .ok name) {f : Field}
    (hf : f ∈ o.fields) :
    ∃ text, segmentText objects stem n (.field f) = .ok text ∧ text <:+: name.toList := by
  obtain ⟨texts, written, rfl⟩ := columnName_eq_ok.mp named
  obtain ⟨text, mem, ok⟩ := exists_of_mapM_eq_ok written (mem_fields.mp hf)
  refine ⟨text, ok, ?_⟩
  rw [String.toList_ofList]
  exact List.infix_of_mem_flatten mem

end Options

/-- The texts of a field for a stem have any length. -/
def Template.Field.Grows (objects : Objects) (stem : String) (f : Field) : Prop :=
  ∀ bound, ∃ n text, Options.segmentText objects stem n (.field f) = .ok text ∧
    bound < text.length

/-- Every counter has a text of its own by a field for a stem. -/
def Template.Field.Distinct (objects : Objects) (stem : String) (f : Field) : Prop :=
  ∃ text : Nat → List Char, Function.Injective text ∧
    ∀ n, Options.segmentText objects stem n (.field f) = .ok (text n)

section
variable {objects : Objects} {stem : String}

/-- Where no field of some segments grows, there is a bound on what they are written as. -/
theorem Options.exists_length_le {segments : List Segment}
    (short : ∀ f, .field f ∈ segments → ¬f.Grows objects stem) :
    ∃ bound, ∀ n texts, segments.mapM (segmentText objects stem n) = .ok texts →
      texts.flatten.length ≤ bound := by
  simp only [mapM_eq_ok]
  induction segments with
  | nil =>
    refine ⟨0, fun n texts written => ?_⟩
    cases written
    exact Nat.le_refl 0
  | cons s rest ih =>
    obtain ⟨others, hothers⟩ := ih fun f hf => short f (List.mem_cons_of_mem _ hf)
    have first : ∃ bound, ∀ n text,
        segmentText objects stem n s = .ok text → text.length ≤ bound := by
      cases s with
      | char c =>
        refine ⟨1, fun n text written => ?_⟩
        cases written
        exact Nat.le_refl 1
      | bad fault => exact ⟨0, fun _ _ written => nomatch written⟩
      | field f =>
        have bounded := short f List.mem_cons_self
        unfold Field.Grows at bounded
        push Not at bounded
        exact bounded
    obtain ⟨bound, hbound⟩ := first
    refine ⟨bound + others, fun n texts written => ?_⟩
    cases written with
    | cons written later =>
      rw [List.flatten_cons, List.length_append]
      exact Nat.add_le_add (hbound n _ written) (hothers n _ later)

end

instance finite_char : Finite Char :=
  Finite.of_injective (fun c => c.val.toFin) fun _ _ h => Char.ext (UInt32.toFin_inj.mp h)

theorem finite_strings (bound : Nat) : {s : String | s.length ≤ bound}.Finite := by
  have lists := (List.finite_length_le Char bound).image String.ofList
  refine lists.subset fun s hs => ⟨s.toList, ?_, String.ofList_toList⟩
  rwa [Set.mem_ofPred_eq, String.length_toList]

/-- Names that are made of every counter are free from any counter on, whatever is taken, exactly
where they get longer and longer. -/
theorem exists_free_iff_exists_long {make : Nat → String} :
    (∀ (taken : List String) (start : Nat), ∃ n ≥ start, make n ∉ taken) ↔
      ∀ bound, ∃ n, bound < (make n).length := by
  constructor
  · intro free bound
    -- all names up to the bound may be taken
    obtain ⟨n, -, fresh⟩ := free (finite_strings bound).toFinset.toList 0
    refine ⟨n, ?_⟩
    simpa using fresh
  · intro long taken start
    -- a name that is longer than those that are taken and those before the start
    let old := taken ++ (List.range start).map make
    obtain ⟨n, hn⟩ := long (old.map String.length).sum
    have fresh : make n ∉ old := fun mem =>
      Nat.not_lt.mpr (List.le_sum_of_mem (List.mem_map_of_mem mem)) hn
    simp only [old, List.mem_append, List.mem_map, List.mem_range, not_or, not_exists,
      not_and] at fresh
    exact ⟨n, Nat.not_lt.mp fun before => fresh.2 n before rfl, fresh.1⟩

namespace Options

theorem exists_free_iff {o : Options} {objects : Objects} {stem : String}
    (formats : ∀ n : Nat, ∃ name, o.columnName objects stem n = .ok name) :
    (∀ (taken : List String) (start : Nat),
        ∃ n ≥ start, ∃ name, o.columnName objects stem n = .ok name ∧ name ∉ taken) ↔
      ∃ f ∈ o.fields, f.Grows objects stem := by
  choose make hmake using formats
  simp only [hmake, Except.ok.injEq, exists_eq_left', exists_free_iff_exists_long]
  constructor
  · intro long
    by_contra none
    push Not at none
    obtain ⟨bound, hbound⟩ := exists_length_le fun f hf => none f (mem_fields.mpr hf)
    obtain ⟨n, hn⟩ := long bound
    obtain ⟨texts, written, name⟩ := columnName_eq_ok.mp (hmake n)
    have short := hbound n texts written
    rw [name, String.length_ofList] at hn
    exact Nat.not_lt.mpr short hn
  · rintro ⟨f, hf, grows⟩ bound
    obtain ⟨n, text, written, long⟩ := grows bound
    obtain ⟨text', written', inside⟩ := infix_of_columnName (hmake n) hf
    obtain rfl : text = text' := Except.ok.inj (written.symm.trans written')
    exact ⟨n, Nat.lt_of_lt_of_le long inside.length_le⟩

end Options

namespace Template

def Field.counter : Field := ⟨['n'], none, [], false⟩

theorem Field.counter_text (objects : Objects) (stem : String) (n : Nat) :
    Options.segmentText objects stem n (.field counter) = .ok (Nat.toDigits 10 n) := by
  have written :
      Options.segmentText objects stem n (.field counter) = .ok (toString (n : Int)).toList := rfl
  have digits : (toString (n : Int)).toList = Nat.toDigits 10 n := Nat.toList_repr
  rw [written, digits]

theorem Field.counter_grows (objects : Objects) (stem : String) : counter.Grows objects stem := by
  intro bound
  refine ⟨10 ^ (bound + 1), _, counter_text objects stem _, ?_⟩
  have long : ¬(Nat.toDigits 10 (10 ^ (bound + 1))).length ≤ bound + 1 := by
    rw [Nat.length_toDigits_le_iff (by decide) (Nat.succ_pos bound)]
    exact Nat.lt_irrefl _
  omega

theorem Field.counter_distinct (objects : Objects) (stem : String) :
    counter.Distinct objects stem := by
  refine ⟨Nat.toDigits 10, fun n m same => ?_, counter_text objects stem⟩
  -- the digits of a counter can be read back
  have values := congrArg (Nat.ofDigitChars 10 · 0) same
  simpa using values

/-- No opening brace stands in a field. -/
structure Field.Unbraced (f : Field) : Prop where
  name : '\x7b' ∉ f.name
  conversion : f.conversion ≠ some '\x7b'
  spec : f.nested = false

theorem readName_eq_ok {bracketed : Bool} {cs : List Char} {e : NameEnd}
    (h : readName bracketed cs = .ok e) :
    cs = e.name ++ e.ending.toList ++ e.rest ∧ e.ending ≠ some '\x7b' := by
  induction cs generalizing bracketed e with
  | nil =>
    cases h
    exact ⟨rfl, nofun⟩
  | cons c rest ih =>
    rw [readName] at h
    split at h
    · obtain ⟨e', later, rfl⟩ := map_eq_ok.mp h
      obtain ⟨parts, ending⟩ := ih later
      exact ⟨congrArg (c :: ·) parts, ending⟩
    · split at h
      · cases h
      · rename_i notOpen
        split at h
        · cases h
          exact ⟨rfl, by simpa using notOpen⟩
        · obtain ⟨e', later, rfl⟩ := map_eq_ok.mp h
          obtain ⟨parts, ending⟩ := ih later
          exact ⟨congrArg (c :: ·) parts, ending⟩

theorem readSpec_eq_some {depth : Nat} {cs spec after : List Char}
    (h : readSpec depth cs = some (spec, after)) : cs = spec ++ '\x7d' :: after := by
  induction cs generalizing depth spec with
  | nil => cases h
  | cons c rest ih =>
    have step {d : Nat}
        (h : (readSpec d rest).map (fun p => (c :: p.1, p.2)) = some (spec, after)) :
        c :: rest = spec ++ '\x7d' :: after := by
      obtain ⟨⟨spec', after'⟩, later, same⟩ := Option.map_eq_some_iff.mp h
      cases same
      exact congrArg (c :: ·) (ih later)
    unfold readSpec at h
    split at h
    · rename_i close
      cases depth with
      | zero =>
        cases h
        rw [close]
        rfl
      | succ d => exact step h
    · exact step h

/-- A field without an opening brace is read off the front of what follows it, and nothing that is
read has an opening brace. -/
theorem readField_eq_ok {cs after : List Char} {f : Field} (h : readField cs = .ok (f, after))
    (unbraced : f.Unbraced) : ∃ read, cs = read ++ after ∧ '\x7b' ∉ read := by
  have withSpec {name rest : List Char} {conversion : Option Char}
      (h : withSpec name conversion rest = .ok (f, after)) :
      f.name = name ∧ f.conversion = conversion ∧
        ∃ spec, rest = spec ++ '\x7d' :: after ∧ '\x7b' ∉ spec := by
    unfold withSpec at h
    split at h
    · rename_i spec after' read
      cases h
      exact ⟨rfl, rfl, spec, readSpec_eq_some read, by simpa using unbraced.spec⟩
    · cases h
  rw [readField, bind_eq_ok] at h
  obtain ⟨⟨name, ending, rest⟩, read, h⟩ := h
  obtain ⟨rfl, notOpen⟩ := readName_eq_ok read
  dsimp only at h notOpen
  split at h
  · cases h
  · -- a conversion, and a specification after it
    split at h
    · cases h
    · obtain ⟨-, -, spec, empty, -⟩ := withSpec h
      simp at empty
    · rename_i c _
      cases h
      have conversion := unbraced.conversion
      refine ⟨name ++ ['!', c, '\x7d'], by simp, ?_⟩
      simpa [unbraced.name, eq_comm] using conversion
    · rename_i c _
      obtain ⟨rfl, given, spec, rfl, inside⟩ := withSpec h
      have conversion := unbraced.conversion
      refine ⟨f.name ++ '!' :: c :: ':' :: spec ++ ['\x7d'], by simp, ?_⟩
      simpa [unbraced.name, inside, given, eq_comm] using conversion
    · cases h
  · obtain ⟨rfl, -, spec, rfl, inside⟩ := withSpec h
    refine ⟨f.name ++ ':' :: spec ++ ['\x7d'], by simp, ?_⟩
    simp [unbraced.name, inside]
  · rename_i last _ _
    cases h
    refine ⟨name ++ [last], by simp, ?_⟩
    simpa [unbraced.name, eq_comm] using notOpen

end Template

/-- The parts of a text after characters that it cannot begin with. -/
theorem hasPart_append {c : Char} {part before after : List Char} (absent : c ∉ before) :
    hasPart (c :: part) (before ++ after) = hasPart (c :: part) after := by
  induction before with
  | nil => rfl
  | cons b rest ih =>
    have other : (c == b) = false := by simpa using List.ne_of_not_mem_cons absent
    rw [List.cons_append, hasPart, List.isPrefixOf, other, Bool.false_and, Bool.false_or,
      ih (List.not_mem_of_not_mem_cons absent)]

theorem hasPart_of_append {part before after : List Char} (h : hasPart part after = true) :
    hasPart part (before ++ after) = true := by
  induction before with
  | nil => exact h
  | cons b rest ih => rw [List.cons_append, hasPart, ih, Bool.or_true]

/-- What is read first of a template: text without an opening brace, or a field. -/
theorem Template.segments_cases {steps : Nat} {c : Char} {rest : List Char}
    (single : hasPart ['\x7b', '\x7b'] (c :: rest) = false)
    (formed : ∀ fault, .bad fault ∉ Template.segments (steps + 1) (c :: rest)) :
    (∃ before after s, c :: rest = before ++ after ∧ '\x7b' ∉ before ∧
      after.length ≤ rest.length ∧
      Template.segments (steps + 1) (c :: rest) = s :: Template.segments steps after) ∨
    ∃ f after, c = '\x7b' ∧ readField rest = .ok (f, after) ∧
      Template.segments (steps + 1) (c :: rest) = .field f :: Template.segments steps after := by
  by_cases isOpen : c = '\x7b'
  · subst isOpen
    cases rest with
    | nil => exact absurd (by simp [Template.segments]) (formed .loneOpen)
    | cons d after =>
      have other : d ≠ '\x7b' := by
        rintro rfl
        simp [hasPart] at single
      cases read : readField (d :: after) with
      | error fault => exact absurd (by simp [Template.segments, other, read]) (formed fault)
      | ok p => exact .inr ⟨p.1, p.2, rfl, rfl, by simp [Template.segments, other, read]⟩
  · by_cases isClose : c = '\x7d'
    · subst isClose
      cases rest with
      | nil => exact absurd (by simp [Template.segments]) (formed .loneClose)
      | cons d after =>
        by_cases double : d = '\x7d'
        · subst double
          refine .inl ⟨['\x7d', '\x7d'], after, .char '\x7d', rfl, by simp, Nat.le_succ _, ?_⟩
          simp [Template.segments]
        · exact absurd (by simp [Template.segments, double]) (formed .loneClose)
    · refine .inl ⟨[c], rest, .char c, rfl, by simpa [eq_comm] using isOpen, Nat.le_refl _, ?_⟩
      simp [Template.segments, isOpen, isClose]

/-- The field of the counter is found where no opening brace is doubled or stands in a field. -/
theorem Template.counter_mem_segments {steps : Nat} {cs : List Char} (enough : cs.length < steps)
    (counts : hasPart counterField cs = true)
    (single : hasPart ['\x7b', '\x7b'] cs = false)
    (formed : ∀ fault, .bad fault ∉ Template.segments steps cs)
    (unbraced : ∀ f, .field f ∈ Template.segments steps cs → f.Unbraced) :
    .field .counter ∈ Template.segments steps cs := by
  induction steps generalizing cs with
  | zero => cases enough
  | succ steps ih =>
    -- what is read first is passed over where the counter stands behind it
    have later {before after : List Char} {s : Segment} (cut : cs = before ++ after)
        (shorter : after.length < steps) (counts : hasPart counterField after = true)
        (read : Template.segments (steps + 1) cs = s :: Template.segments steps after) :
        .field .counter ∈ Template.segments (steps + 1) cs := by
      rw [read] at formed unbraced ⊢
      refine List.mem_cons_of_mem _ (ih shorter counts ?_ ?_ ?_)
      · cases found : hasPart ['\x7b', '\x7b'] after with
        | false => rfl
        | true =>
          rw [cut, hasPart_of_append found] at single
          cases single
      · exact fun fault bad => formed fault (List.mem_cons_of_mem _ bad)
      · exact fun f hf => unbraced f (List.mem_cons_of_mem _ hf)
    cases cs with
    | nil => cases counts
    | cons c rest =>
      have short : rest.length < steps := Nat.lt_of_succ_lt_succ enough
      rcases segments_cases single formed with
        ⟨before, after, s, cut, closed, shorter, head⟩ | ⟨f, after, rfl, read, head⟩
      · refine later cut (Nat.lt_of_le_of_lt shorter short) ?_ head
        rw [cut] at counts
        exact (hasPart_append closed).symm.trans counts
      · have plain : f.Unbraced := unbraced f (by rw [head]; exact List.mem_cons_self)
        obtain ⟨consumed, cut, closed⟩ := readField_eq_ok read plain
        rw [hasPart, Bool.or_eq_true] at counts
        rcases counts with here | counts
        · -- the field begins here
          obtain ⟨post, same⟩ := List.isPrefixOf_iff_prefix.mp here
          cases same
          have counter : readField ('n' :: '\x7d' :: post) = .ok (.counter, post) := rfl
          cases read.symm.trans counter
          rw [head]
          exact List.mem_cons_self
        · have whole : '\x7b' :: rest = ('\x7b' :: consumed) ++ after := congrArg _ cut
          rw [cut] at counts short
          rw [List.length_append] at short
          refine later whole (by omega) ?_ head
          exact (hasPart_append closed).symm.trans counts

theorem Options.counter_mem_fields {o : Options}
    (single : hasPart ['\x7b', '\x7b'] o.template.toList = false)
    (formed : ∀ fault, .bad fault ∉ o.segments) (unbraced : ∀ f ∈ o.fields, f.Unbraced) :
    .counter ∈ o.fields :=
  mem_fields.mpr (counter_mem_segments (Nat.lt_succ_self _) o.template_counts single formed
    fun f hf => unbraced f (mem_fields.mpr hf))

end WindowSql
