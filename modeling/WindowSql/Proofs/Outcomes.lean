import Mathlib.Data.List.Forall2
import WindowSql.Fault

/-!
# Outcomes of steps

A compilation is a run of steps that end with a value or with a failure:

* `bind_eq_ok`, `check_bind_eq_ok`, `map_eq_ok`, `mapError_eq_ok`, `forM_eq_ok`, `mapM_eq_ok`: what
  a run that ends with a value went through;
* `FailsOnly`: the failures that a run can end with, and how they add up over its steps.
-/

namespace WindowSql

section
variable {ε ε' α β : Type}

@[simp] theorem ok_bind (a : α) (f : α → Except ε β) : (Except.ok a >>= f) = f a := rfl

@[simp] theorem error_bind (e : ε) (f : α → Except ε β) : (Except.error e >>= f) = .error e := rfl

@[simp] theorem pure_eq_ok (a : α) : (pure a : Except ε α) = .ok a := rfl

@[simp] theorem throw_eq_error (e : ε) : (throw e : Except ε α) = .error e := rfl

theorem bind_eq_ok {x : Except ε α} {f : α → Except ε β} {b : β} :
    x >>= f = .ok b ↔ ∃ a, x = .ok a ∧ f a = .ok b := by
  cases x <;> simp

theorem check_bind_eq_ok {x : Except ε Unit} {f : Unit → Except ε β} {b : β} :
    x >>= f = .ok b ↔ x = .ok () ∧ f () = .ok b := by
  cases x <;> simp

theorem map_eq_ok {x : Except ε α} {f : α → β} {b : β} :
    x.map f = .ok b ↔ ∃ a, x = .ok a ∧ f a = b := by
  cases x <;> simp [Except.map]

theorem map_eq_error {x : Except ε α} {f : α → β} {e : ε} : x.map f = .error e ↔ x = .error e := by
  cases x <;> simp [Except.map]

theorem mapError_eq_ok {x : Except ε α} {f : ε → ε'} {a : α} :
    x.mapError f = .ok a ↔ x = .ok a := by
  cases x <;> simp [Except.mapError]

theorem lift_eq_ok {x : Except Fault α} {a : α} : Fault.lift x = .ok a ↔ x = .ok a :=
  mapError_eq_ok

@[simp] theorem lift_ok (a : α) : Fault.lift (.ok a : Except Fault α) = .ok a := rfl

theorem LongInteger.lift_eq_ok {x : Except LongInteger α} {a : α} :
    LongInteger.lift x = .ok a ↔ x = .ok a :=
  mapError_eq_ok

@[simp] theorem LongInteger.lift_ok (a : α) :
    LongInteger.lift (.ok a : Except LongInteger α) = .ok a := rfl

theorem forM_eq_ok {l : List α} {f : α → Except ε Unit} :
    l.forM f = .ok () ↔ ∀ a ∈ l, f a = .ok () := by
  induction l with
  | nil => simp [List.forM]
  | cons a rest ih =>
    rw [List.forM, check_bind_eq_ok, ih, List.forall_mem_cons]

theorem mapM_eq_ok {l : List α} {f : α → Except ε β} {bs : List β} :
    l.mapM f = .ok bs ↔ List.Forall₂ (fun a b => f a = .ok b) l bs := by
  induction l generalizing bs with
  | nil => simp [eq_comm]
  | cons a rest ih =>
    simp only [List.mapM_cons, bind_eq_ok, ih, List.forall₂_cons_left_iff, pure_eq_ok,
      Except.ok.injEq]
    grind

theorem mapM_congr {l : List α} {f g : α → Except ε β} (h : ∀ a ∈ l, f a = g a) :
    l.mapM f = l.mapM g := by
  induction l with
  | nil => rfl
  | cons a rest ih =>
    obtain ⟨first, others⟩ := List.forall_mem_cons.mp h
    rw [List.mapM_cons, List.mapM_cons, first, ih others]

theorem exists_of_mapM_eq_ok {l : List α} {f : α → Except ε β} {bs : List β}
    (h : l.mapM f = .ok bs) {a : α} (ha : a ∈ l) : ∃ b ∈ bs, f a = .ok b := by
  have steps := mapM_eq_ok.mp h
  clear h
  induction steps with
  | nil => cases ha
  | cons first _ ih =>
    rcases List.mem_cons.mp ha with rfl | later
    · exact ⟨_, List.mem_cons_self, first⟩
    · obtain ⟨b, hb, hf⟩ := ih later
      exact ⟨b, List.mem_cons_of_mem _ hb, hf⟩

theorem exists_of_mem_of_mapM_eq_ok {l : List α} {f : α → Except ε β} {bs : List β}
    (h : l.mapM f = .ok bs) {b : β} (hb : b ∈ bs) : ∃ a ∈ l, f a = .ok b := by
  have steps := mapM_eq_ok.mp h
  clear h
  induction steps with
  | nil => cases hb
  | cons first _ ih =>
    rcases List.mem_cons.mp hb with rfl | later
    · exact ⟨_, List.mem_cons_self, first⟩
    · obtain ⟨a, ha, hf⟩ := ih later
      exact ⟨a, List.mem_cons_of_mem _ ha, hf⟩

/-- A run that does not end with a value ends with one of these failures. -/
def FailsOnly (P : ε → Prop) (x : Except ε α) : Prop := ∀ e, x = .error e → P e

namespace FailsOnly
variable {P Q : ε → Prop}

theorem imp {x : Except ε α} (h : FailsOnly P x) (imp : ∀ e, P e → Q e) : FailsOnly Q x :=
  fun e he => imp e (h e he)

theorem ok (a : α) : FailsOnly P (.ok a : Except ε α) := nofun

theorem of_eq_ok {x : Except ε α} {a : α} (h : x = .ok a) : FailsOnly P x := by
  rw [h]
  exact ok a

theorem error {e : ε} (h : P e) : FailsOnly P (.error e : Except ε α) := by
  rintro _ ⟨⟩
  exact h

/-- A run that cannot fail ends with a value. -/
theorem exists_ok {x : Except ε α} (h : FailsOnly (fun _ => False) x) : ∃ a, x = .ok a := by
  cases x with
  | ok a => exact ⟨a, rfl⟩
  | error e => exact (h e rfl).elim

theorem bind {x : Except ε α} {f : α → Except ε β} (hx : FailsOnly P x)
    (hf : ∀ a, x = .ok a → FailsOnly P (f a)) : FailsOnly P (x >>= f) := by
  cases x with
  | error e => exact error (hx e rfl)
  | ok a => exact hf a rfl

theorem map {x : Except ε α} (f : α → β) (hx : FailsOnly P x) : FailsOnly P (x.map f) := by
  cases x with
  | error e => exact error (hx e rfl)
  | ok a => exact ok (f a)

theorem mapError {x : Except ε' α} {f : ε' → ε} (h : ∀ e, x = .error e → P (f e)) :
    FailsOnly P (x.mapError f) := by
  cases x with
  | error e => exact error (h e rfl)
  | ok a => exact ok a

theorem lift {P : Failure → Prop} {x : Except Fault α}
    (h : FailsOnly (fun f => P (.fault f)) x) : FailsOnly P (Fault.lift x) :=
  mapError h

theorem liftLong {P : Failure → Prop} {x : Except LongInteger α}
    (h : FailsOnly (fun f => P (.longInteger f)) x) : FailsOnly P (LongInteger.lift x) :=
  mapError h

theorem mapM {l : List α} {f : α → Except ε β} (hf : ∀ a ∈ l, FailsOnly P (f a)) :
    FailsOnly P (l.mapM f) := by
  induction l with
  | nil => exact ok []
  | cons a rest ih =>
    obtain ⟨first, others⟩ := List.forall_mem_cons.mp hf
    rw [List.mapM_cons]
    exact first.bind fun b _ => (ih others).bind fun bs _ => ok (b :: bs)

theorem forM {l : List α} {f : α → Except ε Unit} (hf : ∀ a ∈ l, FailsOnly P (f a)) :
    FailsOnly P (l.forM f) := by
  induction l with
  | nil => exact ok ()
  | cons a rest ih =>
    obtain ⟨first, others⟩ := List.forall_mem_cons.mp hf
    exact first.bind fun _ _ => ih others

end FailsOnly

end

end WindowSql
