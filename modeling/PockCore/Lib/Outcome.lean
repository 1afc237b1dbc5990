import Mathlib.Tactic.Common
import Mathlib.Logic.Basic

/-!
# Outcomes of fallible calls

A call returns a value, returns an error, or panics. A panic is kept apart from an error: a
caller sees neither a value nor an error after it, and "returns an error" is a promise that a
panic breaks.
-/

universe u v

/-- The outcome of a call whose errors are of type `ε`. -/
inductive Outcome (ε : Type u) (α : Type v) : Type (max u v) where
  | ok (a : α)
  | err (e : ε)
  | panic
  deriving Repr, DecidableEq

namespace Outcome

variable {ε ε' : Type u} {α β γ : Type v}

protected def bind : Outcome ε α → (α → Outcome ε β) → Outcome ε β
  | ok a, f => f a
  | err e, _ => err e
  | panic, _ => panic

instance : Monad (Outcome ε) where
  pure := ok
  bind := Outcome.bind

@[simp] lemma pure_eq_ok (a : α) : (pure a : Outcome ε α) = ok a := rfl

@[simp] lemma ok_bind (a : α) (f : α → Outcome ε β) : (ok a >>= f) = f a := rfl

@[simp] lemma err_bind (e : ε) (f : α → Outcome ε β) : (err e >>= f) = err e := rfl

@[simp] lemma panic_bind (f : α → Outcome ε β) : ((panic : Outcome ε α) >>= f) = panic := rfl

lemma bind_assoc (x : Outcome ε α) (f : α → Outcome ε β) (g : β → Outcome ε γ) :
    (x >>= f) >>= g = x >>= fun a => f a >>= g := by
  cases x <;> simp

/-- A chain of calls returns a value exactly when each call of it does. -/
lemma bind_eq_ok {x : Outcome ε α} {f : α → Outcome ε β} {b : β} :
    (x >>= f) = ok b ↔ ∃ a, x = ok a ∧ f a = ok b := by
  cases x <;> simp

/-- Replace the error of a call. -/
def mapErr (f : ε → ε') : Outcome ε α → Outcome ε' α
  | ok a => ok a
  | err e => err (f e)
  | panic => panic

@[simp] lemma mapErr_ok (f : ε → ε') (a : α) : mapErr f (ok a : Outcome ε α) = ok a := rfl

@[simp] lemma mapErr_err (f : ε → ε') (e : ε) :
    mapErr f (err e : Outcome ε α) = err (f e) := rfl

@[simp] lemma mapErr_panic (f : ε → ε') : mapErr f (panic : Outcome ε α) = panic := rfl

@[simp] lemma mapErr_eq_ok {f : ε → ε'} {x : Outcome ε α} {a : α} :
    mapErr f x = ok a ↔ x = ok a := by
  cases x <;> simp

@[simp] lemma mapErr_eq_err {f : ε → ε'} {x : Outcome ε α} {e' : ε'} :
    mapErr f x = err e' ↔ ∃ e, x = err e ∧ f e = e' := by
  cases x <;> simp

/-- `Option::ok_or`. -/
def okOr (e : ε) : Option α → Outcome ε α
  | some a => ok a
  | none => err e

@[simp] lemma okOr_some (e : ε) (a : α) : okOr e (some a) = ok a := rfl

@[simp] lemma okOr_none (e : ε) : okOr e (none : Option α) = err e := rfl

@[simp] lemma okOr_eq_ok {e : ε} {x : Option α} {a : α} : okOr e x = ok a ↔ x = some a := by
  cases x <;> simp

/-- The result of another library's call, its error converted. -/
def ofExcept (f : ε' → ε) : Except ε' α → Outcome ε α
  | .ok a => ok a
  | .error e => err (f e)

@[simp] lemma ofExcept_ok (f : ε' → ε) (a : α) : ofExcept f (.ok a) = ok a := rfl

@[simp] lemma ofExcept_error (f : ε' → ε) (e : ε') :
    ofExcept f (.error e : Except ε' α) = err (f e) := rfl

@[simp] lemma ofExcept_eq_ok {f : ε' → ε} {x : Except ε' α} {a : α} :
    ofExcept f x = ok a ↔ x = .ok a := by
  cases x <;> simp

/-- `Result::expect` and `Result::unwrap`: an error becomes a panic. -/
def expect : Outcome ε α → Outcome ε' α
  | ok a => ok a
  | err _ => panic
  | panic => panic

@[simp] lemma expect_ok (a : α) : (expect (ok a : Outcome ε α) : Outcome ε' α) = ok a := rfl

@[simp] lemma expect_eq_ok {x : Outcome ε α} {a : α} :
    (expect x : Outcome ε' α) = ok a ↔ x = ok a := by
  cases x <;> simp [expect]

/-- The call returned an error: neither a value nor a panic. -/
def IsErr (x : Outcome ε α) : Prop := ∃ e, x = err e

@[simp] lemma isErr_err (e : ε) : IsErr (err e : Outcome ε α) := ⟨e, rfl⟩

@[simp] lemma isErr_mapErr {f : ε → ε'} {x : Outcome ε α} : IsErr (mapErr f x) ↔ IsErr x := by
  cases x <;> simp [IsErr]

/-- An error of the first call is an error of the chain. -/
lemma IsErr.bind {x : Outcome ε α} (h : IsErr x) (f : α → Outcome ε β) : IsErr (x >>= f) := by
  obtain ⟨e, rfl⟩ := h
  exact isErr_err e

lemma IsErr.ne_ok {x : Outcome ε α} (h : IsErr x) (a : α) : x ≠ ok a := by
  obtain ⟨e, rfl⟩ := h
  nofun

/-- An error of a later call is an error of the chain. -/
lemma isErr_bind_of_ok {x : Outcome ε α} {f : α → Outcome ε β} {a : α} (hx : x = ok a)
    (h : IsErr (f a)) : IsErr (x >>= f) := by
  rw [hx]
  exact h

/-- A chain is an error if it is one from every value of its first call on. -/
lemma isErr_bind {x : Outcome ε α} {f : α → Outcome ε β} (hx : x ≠ panic)
    (h : ∀ a, x = ok a → IsErr (f a)) : IsErr (x >>= f) := by
  cases x with
  | ok a => exact h a rfl
  | err e => exact isErr_err e
  | panic => exact absurd rfl hx

/-- A call that neither panics nor returns a value returns an error. -/
lemma isErr_of_ne {x : Outcome ε α} (hp : x ≠ panic) (hok : ∀ a, x ≠ ok a) : IsErr x := by
  cases x with
  | ok a => exact absurd rfl (hok a)
  | err e => exact isErr_err e
  | panic => exact absurd rfl hp

/-- What is left of a call when its value is dropped. -/
def void : Outcome ε α → Outcome ε Unit
  | ok _ => ok ()
  | err e => err e
  | panic => panic

@[simp] lemma void_ok (a : α) : void (ok a : Outcome ε α) = ok () := rfl

@[simp] lemma void_err (e : ε) : void (err e : Outcome ε α) = err e := rfl

@[simp] lemma isErr_void {x : Outcome ε α} : IsErr (void x) ↔ IsErr x := by
  cases x <;> simp [IsErr, void]

/-! ### Calls that do not panic -/

lemma ok_ne_panic {a : α} : (ok a : Outcome ε α) ≠ panic := nofun

lemma err_ne_panic {e : ε} : (err e : Outcome ε α) ≠ panic := nofun

@[simp] lemma mapErr_ne_panic {f : ε → ε'} {x : Outcome ε α} : mapErr f x ≠ panic ↔ x ≠ panic := by
  cases x <;> simp

@[simp] lemma okOr_ne_panic {e : ε} {x : Option α} : okOr e x ≠ panic := by
  cases x <;> simp

@[simp] lemma ofExcept_ne_panic {f : ε' → ε} {x : Except ε' α} : ofExcept f x ≠ panic := by
  cases x <;> simp

lemma bind_ne_panic {x : Outcome ε α} {f : α → Outcome ε β} (hx : x ≠ panic)
    (hf : ∀ a, x = ok a → f a ≠ panic) : (x >>= f) ≠ panic := by
  cases x with
  | ok a => exact hf a rfl
  | err e => nofun
  | panic => exact absurd rfl hx

/-! ### Which errors a call returns -/

/-- Whatever error the call returns has the property. -/
def ErrIn (p : ε → Prop) (x : Outcome ε α) : Prop := ∀ e, x = err e → p e

/-- The call does not panic, and whatever error it returns has the property. -/
structure Within (p : ε → Prop) (x : Outcome ε α) : Prop where
  ne_panic : x ≠ panic
  errIn : ErrIn p x

variable {p q : ε → Prop}

lemma errIn_ok (a : α) : ErrIn p (ok a : Outcome ε α) := by
  intro e h
  cases h

lemma errIn_err {e : ε} (h : p e) : ErrIn p (err e : Outcome ε α) := by
  intro e' he'
  cases he'
  exact h

lemma errIn_panic : ErrIn p (panic : Outcome ε α) := by
  intro e h
  cases h

lemma errIn_okOr {e : ε} (h : p e) (o : Option α) : ErrIn p (okOr e o) := by
  cases o with
  | none => exact errIn_err h
  | some a => exact errIn_ok a

lemma errIn_ofExcept {f : ε' → ε} (h : ∀ e, p (f e)) (x : Except ε' α) :
    ErrIn p (ofExcept f x) := by
  cases x with
  | error e => exact errIn_err (h e)
  | ok a => exact errIn_ok a

lemma errIn_mapErr {f : ε' → ε} (h : ∀ e, p (f e)) (x : Outcome ε' α) :
    ErrIn p (mapErr f x) := by
  cases x with
  | ok a => exact errIn_ok a
  | err e => exact errIn_err (h e)
  | panic => exact errIn_panic

/-- A chain returns the errors of its calls. -/
lemma ErrIn.bind {x : Outcome ε α} {f : α → Outcome ε β} (hx : ErrIn p x)
    (hf : ∀ a, ErrIn p (f a)) : ErrIn p (x >>= f) := by
  cases x with
  | ok a => exact hf a
  | err e => exact errIn_err (hx e rfl)
  | panic => exact errIn_panic

lemma within_ok (a : α) : Within p (ok a : Outcome ε α) := ⟨ok_ne_panic, errIn_ok a⟩

lemma within_err {e : ε} (h : p e) : Within p (err e : Outcome ε α) := ⟨err_ne_panic, errIn_err h⟩

lemma within_okOr {e : ε} (h : p e) (o : Option α) : Within p (okOr e o) :=
  ⟨okOr_ne_panic, errIn_okOr h o⟩

lemma within_ofExcept {f : ε' → ε} (h : ∀ e, p (f e)) (x : Except ε' α) :
    Within p (ofExcept f x) :=
  ⟨ofExcept_ne_panic, errIn_ofExcept h x⟩

lemma within_mapErr {f : ε' → ε} {x : Outcome ε' α} (hx : x ≠ panic) (h : ∀ e, p (f e)) :
    Within p (mapErr f x) :=
  ⟨mapErr_ne_panic.mpr hx, errIn_mapErr h x⟩

lemma Within.bind {x : Outcome ε α} {f : α → Outcome ε β} (hx : Within p x)
    (hf : ∀ a, x = ok a → Within p (f a)) : Within p (x >>= f) := by
  cases x with
  | ok a => exact hf a rfl
  | err e => exact within_err (hx.errIn e rfl)
  | panic => exact absurd rfl hx.ne_panic

end Outcome
