/-!
# Computations that may fail

    exists_of_bind_ok   a sequence succeeds as both of its steps do
    Alike E R x y       x and y give values that R relates, or errors that E relates
-/

namespace Quarantine

theorem exists_of_bind_ok {ε α β : Type} {x : Except ε α} {f : α → Except ε β} {b : β}
    (h : x >>= f = .ok b) : ∃ a, x = .ok a ∧ f a = .ok b := by
  cases x with
  | error e => cases h
  | ok a => exact ⟨a, rfl, h⟩

theorem exists_of_map_ok {ε α β : Type} {x : Except ε α} {f : α → β} {b : β}
    (h : x.map f = .ok b) : ∃ a, x = .ok a ∧ f a = b := by
  cases x with
  | error e => cases h
  | ok a => exact ⟨a, rfl, Except.ok.inj h⟩

theorem exists_ok_of_toOption_map {ε α β : Type} {x : Except ε α} {f : α → β} {b : β}
    (h : x.toOption.map f = some b) : ∃ a, x = .ok a ∧ f a = b := by
  cases x with
  | error e => cases h
  | ok a => exact ⟨a, rfl, Option.some.inj h⟩

/-- That two computations end alike. -/
inductive Alike {ε ε' α α' : Type} (E : ε → ε' → Prop) (R : α → α' → Prop) :
    Except ε α → Except ε' α' → Prop
  | ok {a : α} {b : α'} (h : R a b) : Alike E R (.ok a) (.ok b)
  | error {e : ε} {f : ε'} (h : E e f) : Alike E R (.error e) (.error f)

namespace Alike

variable {ε ε' α α' β β' : Type} {E : ε → ε' → Prop} {R : α → α' → Prop} {S : β → β' → Prop}
  {x : Except ε α} {y : Except ε' α'}

theorem refl {E : ε → ε → Prop} (hE : ∀ e, E e e) (x : Except ε α) : Alike E Eq x x := by
  cases x with
  | error e => exact .error (hE e)
  | ok a => exact .ok rfl

/-- What is made of a result afterwards. -/
theorem map_right {E : ε → ε → Prop} (hE : ∀ e, E e e) (x : Except ε α) (f : α → β) :
    Alike E (fun a b => b = f a) x (x.map f) := by
  cases x with
  | error e => exact .error (hE e)
  | ok a => exact .ok rfl

/-- Steps that are alike one after the other are alike together. -/
theorem bind {f : α → Except ε β} {g : α' → Except ε' β'} (h : Alike E R x y)
    (hf : ∀ {a b}, x = .ok a → y = .ok b → R a b → Alike E S (f a) (g b)) :
    Alike E S (x >>= f) (y >>= g) := by
  cases h with
  | ok h => exact hf rfl rfl h
  | error h => exact .error h

theorem map {f : α → β} {g : α' → β'} (h : Alike E R x y) (hf : ∀ {a b}, R a b → S (f a) (g b)) :
    Alike E S (x.map f) (y.map g) := by
  cases h with
  | ok h => exact .ok (hf h)
  | error h => exact .error h

theorem exists_of_ok {a : α} (h : Alike E R (.ok a) y) : ∃ b, y = .ok b ∧ R a b := by
  cases h with
  | ok h => exact ⟨_, rfl, h⟩

theorem exists_of_error {e : ε} (h : Alike E R (.error e) y) : ∃ f, y = .error f ∧ E e f := by
  cases h with
  | error h => exact ⟨_, rfl, h⟩

theorem mono {S : α → α' → Prop} (h : Alike E R x y) (hS : ∀ {a b}, R a b → S a b) :
    Alike E S x y := by
  cases h with
  | ok h => exact .ok (hS h)
  | error h => exact .error h

theorem mono_error {F : ε → ε' → Prop} (h : Alike E R x y) (hF : ∀ {e f}, E e f → F e f) :
    Alike F R x y := by
  cases h with
  | ok h => exact .ok h
  | error h => exact .error (hF h)

end Alike

end Quarantine
