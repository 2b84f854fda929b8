import WindowSql.Proofs.NameForms
import WindowSql.Proofs.WellFormed

/-!
# Registered functions

A catalog is extended by functions as they are given and by rolling aggregates of a name, any number
of them at a time and any number of times:

* `find?_extend`: an extension changes what is found under the names of its functions alone;
* `getElem?_stages`: the catalogs of a chain of extensions stay as they are;
* `Registration.plain_iff`: the names that a function is kept under as it is looked up;
* `registered_functions`: which functions are found after a chain of extensions, and under which
  names.
-/

namespace WindowSql

/-- A function that a catalog is extended by: as it is given, or a rolling aggregate of a name. -/
inductive Registration where
  | given (f : WindowFunction)
  | rolling (name aggregate : String) (preceding following : Option Int)
  deriving DecidableEq, Repr

namespace Registration

def name : Registration → String
  | given f => f.name
  | rolling name _ _ _ => name

/-- The function that a catalog keeps, which has a name of its own. -/
def function : Registration → WindowFunction
  | given f => f
  | rolling name aggregate preceding following =>
    .rolling name aggregate preceding following

/-- The name has no blanks around it and, if nothing else puts it so, is in lower case. -/
def Plain : Registration → Prop
  | given f => Text.lower f.name = f.name ∧ Text.strip f.name = f.name
  | rolling name _ _ _ => Text.strip name = name

instance : (r : Registration) → Decidable r.Plain
  | given _ => inferInstanceAs (Decidable (_ ∧ _))
  | rolling .. => inferInstanceAs (Decidable (_ = _))

/-- A function is looked up under the same names by its own name and by the one it is registered
under. -/
theorem key_function_name (r : Registration) :
    Catalog.key r.function.name = Catalog.key r.name := by
  cases r with
  | given f => rfl
  | rolling name => exact Catalog.key_lower name

/-- The plain names are those that a function is kept under as they are looked up. -/
theorem plain_iff {r : Registration} : r.Plain ↔ Catalog.key r.name = r.function.name := by
  cases r with
  | given f => exact Catalog.key_eq_self_iff.symm
  | rolling name =>
    rw [Catalog.key, Text.lower_strip]
    exact Text.strip_lower_eq_self_iff.symm

def meanOfThree : Registration := rolling "roll_mean3" "avg" (some 1) (some 1)

def paddedMean : Registration := rolling " roll_mean3" "avg" (some 1) (some 1)

end Registration

namespace Catalog

/-- A text is a name in some letter case, with any blanks around it. -/
def Spells (m name : String) : Prop :=
  ∃ front word back : String, (∀ c ∈ front.toList, Text.isBlank c = true) ∧
    (∀ c ∈ back.toList, Text.isBlank c = true) ∧ Text.lower word = Text.lower name ∧
    m = front ++ word ++ back

theorem Spells.key_eq {m name : String} (h : Spells m name) : key m = key name := by
  obtain ⟨front, word, back, hf, hb, same, rfl⟩ := h
  calc
    key (front ++ word ++ back) = Text.lower (Text.strip word) := by
      rw [key, Text.strip_append hf hb]
    _ = Text.strip (Text.lower name) := by rw [Text.lower_strip, same]
    _ = key name := (Text.lower_strip name).symm

/-- An extension changes what is found under the names of its functions alone. -/
theorem find?_extend {c : Catalog} {more : List WindowFunction} {m : String}
    (h : ∀ f ∈ more, f.name ≠ key m) : (c.extend more).find? m = c.find? m := by
  have none : more.reverse.find? (·.name == key m) = none := by
    apply List.find?_eq_none.mpr
    intro f hf
    simpa using h f (List.mem_reverse.mp hf)
  have functions : (c.extend more).functions = c.functions ++ more := List.append_assoc .. |>.symm
  rw [find?, functions, List.reverse_append, List.find?_append, none]
  rfl

theorem extend_extend (c : Catalog) (fs gs : List WindowFunction) :
    (c.extend fs).extend gs = c.extend (fs ++ gs) := by
  rw [extend, extend, extend, List.append_assoc]

/-- The catalogs of a chain of extensions, the one that it starts with first. -/
def stages (start : Catalog) : List (List Registration) → List Catalog
  | [] => [start]
  | more :: rest => start :: stages (start.extend (more.map Registration.function)) rest

/-- Later extensions leave a catalog as the earlier ones made it. -/
theorem getElem?_stages (start : Catalog) (earlier later : List (List Registration)) :
    (start.stages (earlier ++ later))[earlier.length]? =
      some (start.extend (earlier.flatten.map Registration.function)) := by
  induction earlier generalizing start with
  | nil =>
    have same : start.extend [] = start := by rw [extend, List.append_nil]
    rw [List.flatten_nil, List.map_nil, same]
    cases later <;> rfl
  | cons more rest ih =>
    rw [List.flatten_cons, List.map_append, ← extend_extend, ← ih]
    rfl

/-- The last function of a name is found where its name is looked up. -/
theorem get_extend_eq_ok_iff {c : Catalog} {before after : List WindowFunction} {f : WindowFunction}
    (last : ∀ g ∈ after, g.name ≠ f.name) (m : String) :
    (c.extend (before ++ f :: after)).get m = .ok f ↔ key m = f.name := by
  rw [get_eq_ok_iff]
  constructor
  · rintro ⟨-, -, -, named, -⟩
    exact named.symm
  · intro named
    refine ⟨c.functions ++ before, after, ?_, named.symm, last⟩
    rw [extend, functions, functions, List.append_assoc, List.append_assoc]

/-- **Registered functions.** In a chain of extensions of the built-in catalog, after any number of
them and whatever comes later:

* a function that is not replaced since is found under the names whose form that is looked up is its
  own name; under its name, in any letter case and with any blanks around, exactly where that name
  is plain; and else under no name at all;
* names that no function is registered under keep their built-in function, or have none. -/
theorem registered_functions (earlier later : List (List Registration)) :
    ∃ c, (({} : Catalog).stages (earlier ++ later))[earlier.length]? = some c ∧
      (∀ before r after, earlier.flatten = before ++ r :: after →
        (∀ s ∈ after, s.function.name ≠ r.function.name) →
        (∀ m, c.get m = .ok r.function ↔ key m = r.function.name) ∧
        (∀ m, Spells m r.name → (c.get m = .ok r.function ↔ r.Plain)) ∧
        ((∃ m, c.get m = .ok r.function) ↔ r.Plain)) ∧
      ∀ m, (∀ r ∈ earlier.flatten, key r.name ≠ key m) → c.find? m = ({} : Catalog).find? m := by
  refine ⟨_, getElem?_stages {} earlier later, ?_, ?_⟩
  · intro before r after split last
    have found (m : String) :
        (({} : Catalog).extend (earlier.flatten.map Registration.function)).get m =
          .ok r.function ↔ key m = r.function.name := by
      rw [split, List.map_append, List.map_cons]
      exact get_extend_eq_ok_iff (List.forall_mem_map.mpr last) m
    refine ⟨found, ?_, ?_⟩
    · intro m spelt
      rw [found, spelt.key_eq, Registration.plain_iff]
    · simp only [found, Registration.plain_iff]
      constructor
      · rintro ⟨m, named⟩
        rw [← r.key_function_name, ← named, key_key]
      · intro named
        exact ⟨r.name, named⟩
  · intro m unregistered
    apply find?_extend
    intro f hf
    obtain ⟨r, registered, rfl⟩ := List.mem_map.mp hf
    intro named
    apply unregistered r registered
    rw [← r.key_function_name, named, key_key]

/-- A mean over three rows is found under its name in capitals behind a blank. -/
theorem registered_functions_meanOfThree :
    ∃ c, (({} : Catalog).stages [[.meanOfThree]])[1]? = some c ∧
      c.get " ROLL_MEAN3" = .ok Registration.meanOfThree.function := by
  obtain ⟨c, stage, registered, -⟩ := registered_functions [[.meanOfThree]] []
  obtain ⟨-, spelt, -⟩ := registered [] .meanOfThree [] rfl (List.forall_mem_nil _)
  have capitals : Spells " ROLL_MEAN3" Registration.meanOfThree.name :=
    ⟨" ", "ROLL_MEAN3", "", List.all_eq_true.mp (by decide +kernel), List.forall_mem_nil _,
      by decide +kernel, rfl⟩
  exact ⟨c, stage, (spelt _ capitals).mpr (by decide +kernel)⟩

/-- The same mean with a blank in its name is in the catalog and is found under no name. -/
theorem padded_function_unreachable :
    Registration.paddedMean.function ∈
      (({} : Catalog).extend [Registration.paddedMean.function]).functions ∧
    (({} : Catalog).extend [Registration.paddedMean.function]).find? " roll_mean3" = none ∧
    ¬∃ m, (({} : Catalog).extend [Registration.paddedMean.function]).get m =
      .ok Registration.paddedMean.function := by
  refine ⟨List.mem_append_right _ (List.mem_singleton_self _), by decide +kernel, ?_⟩
  rintro ⟨m, found⟩
  have last : ∀ g ∈ ([] : List WindowFunction), g.name ≠ Registration.paddedMean.function.name :=
    List.forall_mem_nil _
  have named : key m = Registration.paddedMean.function.name :=
    (@get_extend_eq_ok_iff {} [] [] _ last m).mp found
  have stripped : Registration.paddedMean.Plain := by
    rw [Registration.plain_iff, ← Registration.key_function_name, ← named, key_key]
  exact absurd stripped (by decide +kernel)

end Catalog

end WindowSql
