import Mathlib.Order.Defs.PartialOrder
import Mathlib.Order.RelClasses

/-! Actions over a state that survives an error, as a Rust function with `?` has
them: an early return keeps every write made before it. The carrier is the core
`EStateM`; this module adds the rules by which results about callees are used. -/
namespace BitProtector.Effect

variable {ε σ α β : Type}

/-- The state an action leaves behind, whether it returns or fails. -/
def after (x : EStateM ε σ α) (s : σ) : σ :=
  match x s with
  | .ok _ t => t
  | .error _ t => t

/-- Capture the result of an action instead of returning early on its error. -/
def attempt (x : EStateM ε σ α) : EStateM ε σ (Except ε α) := fun s =>
  match x s with
  | .ok a t => .ok (.ok a) t
  | .error e t => .ok (.error e) t

theorem bind_apply (x : EStateM ε σ α) (f : α → EStateM ε σ β) (s : σ) :
    (x >>= f) s = match x s with
      | .ok a t => f a t
      | .error e t => .error e t := rfl

theorem bind_of_ok {x : EStateM ε σ α} {s t : σ} {a : α} (ok : x s = .ok a t)
    (f : α → EStateM ε σ β) : (x >>= f) s = f a t := by
  rw [bind_apply,ok]

theorem bind_of_error {x : EStateM ε σ α} {s t : σ} {e : ε} (failed : x s = .error e t)
    (f : α → EStateM ε σ β) : (x >>= f) s = .error e t := by
  rw [bind_apply,failed]

theorem bind_success {x : EStateM ε σ α} {f : α → EStateM ε σ β} {s u : σ} {b : β}
    (ok : (x >>= f) s = .ok b u) : ∃ a t, x s = .ok a t ∧ f a t = .ok b u := by
  rw [bind_apply] at ok
  cases first : x s with
  | ok a t => exact ⟨a,t,rfl,by simpa only [first] using ok⟩
  | error e t => simp [first] at ok

theorem after_of_ok {x : EStateM ε σ α} {s t : σ} {a : α} (ok : x s = .ok a t) : after x s = t := by
  rw [after,ok]

theorem after_of_error {x : EStateM ε σ α} {s t : σ} {e : ε} (failed : x s = .error e t) :
    after x s = t := by
  rw [after,failed]

@[simp] theorem after_attempt (x : EStateM ε σ α) (s : σ) : after (attempt x) s = after x s := by
  unfold after attempt
  cases x s <;> rfl

theorem after_bind_of_still {x : EStateM ε σ α} {f : α → EStateM ε σ β} (still : ∀ a s, after (f a) s = s)
    (s : σ) : after (x >>= f) s = after x s := by
  unfold after at *
  rw [bind_apply]
  cases ran : x s with
  | error e t => rfl
  | ok a t => exact still a t

@[simp] theorem after_discard (x : EStateM ε σ α) (s : σ) :
    after (do let _ ← x; pure PUnit.unit) s = after x s :=
  after_bind_of_still (fun _ _ => rfl) s

theorem after_bind_of_ok {x : EStateM ε σ α} {s t : σ} {a : α} (ok : x s = .ok a t)
    (f : α → EStateM ε σ β) : after (x >>= f) s = after (f a) t := by
  rw [after,after,bind_of_ok ok]

theorem after_bind_of_error {x : EStateM ε σ α} {s t : σ} {e : ε} (failed : x s = .error e t)
    (f : α → EStateM ε σ β) : after (x >>= f) s = t := by
  rw [after,bind_of_error failed]

theorem after_bind_cases (x : EStateM ε σ α) (f : α → EStateM ε σ β) (s : σ) :
    (∃ e, x s = .error e (after (x >>= f) s)) ∨ ∃ a t, x s = .ok a t ∧ after (x >>= f) s = after (f a) t := by
  cases ran : x s with
  | error e t =>
    rw [after_bind_of_error ran]
    exact .inl ⟨e,rfl⟩
  | ok a t => exact .inr ⟨a,t,rfl,after_bind_of_ok ran f⟩

theorem attempt_of_ok {x : EStateM ε σ α} {s t : σ} {a : α} (ok : x s = .ok a t) :
    attempt x s = .ok (.ok a) t := by
  rw [attempt,ok]

theorem attempt_of_error {x : EStateM ε σ α} {s t : σ} {e : ε} (failed : x s = .error e t) :
    attempt x s = .ok (.error e) t := by
  rw [attempt,failed]

theorem attempt_success {x : EStateM ε σ α} {s t : σ} {a : α} (ok : attempt x s = .ok (.ok a) t) : x s = .ok a t := by
  unfold attempt at ok
  cases ran : x s with
  | ok b u =>
    rw [ran] at ok
    cases ok
    rfl
  | error e u =>
    rw [ran] at ok
    cases ok

/-- `Keeps R x`: however `x` ends, the state it leaves is related to the one it found. -/
def Keeps (R : σ → σ → Prop) (x : EStateM ε σ α) : Prop := ∀ s, R s (after x s)

section Keeps
variable {R : σ → σ → Prop} [IsPreorder σ R]

theorem keeps_pure (a : α) : Keeps R (pure a : EStateM ε σ α) := fun s => refl_of R s

theorem keeps_throw (e : ε) : Keeps R (throw e : EStateM ε σ α) := fun s => refl_of R s

theorem related_bind {x : EStateM ε σ α} {f : α → EStateM ε σ β} {s : σ} (head : R s (after x s))
    (second : ∀ a, Keeps R (f a)) : R s (after (x >>= f) s) := by
  unfold after at head ⊢
  rw [bind_apply]
  cases run : x s with
  | error e t => simpa only [run] using head
  | ok a t =>
    have tail := second a t
    unfold after at tail
    exact trans_of R (by simpa only [run] using head) tail

theorem keeps_bind {x : EStateM ε σ α} {f : α → EStateM ε σ β}
    (first : Keeps R x) (second : ∀ a, Keeps R (f a)) : Keeps R (x >>= f) :=
  fun s => related_bind (first s) second

omit [IsPreorder σ R] in
theorem keeps_attempt {x : EStateM ε σ α} (inner : Keeps R x) : Keeps R (attempt x) := by
  intro s
  have kept := inner s
  unfold after attempt at *
  cases run : x s <;> simpa only [run] using kept

end Keeps

/-! Actions that always return. -/

/-- `x` returns from `s`, with a value and a state of which `Q` holds. -/
def Yields (x : EStateM ε σ α) (s : σ) (Q : α → σ → Prop) : Prop := ∃ a t, x s = .ok a t ∧ Q a t

theorem yields_pure {a : α} {s : σ} {Q : α → σ → Prop} (holds : Q a s) : Yields (pure a : EStateM ε σ α) s Q :=
  ⟨a,s,rfl,holds⟩

theorem yields_bind {x : EStateM ε σ α} {f : α → EStateM ε σ β} {s : σ} {Q : α → σ → Prop} {R : β → σ → Prop}
    (first : Yields x s Q) (rest : ∀ a t, Q a t → Yields (f a) t R) : Yields (x >>= f) s R := by
  obtain ⟨a,t,ran,holds⟩ := first
  obtain ⟨b,u,ended,after⟩ := rest a t holds
  exact ⟨b,u,(bind_of_ok ran f).trans ended,after⟩

theorem yields_bind_ok {x : EStateM ε σ α} {f : α → EStateM ε σ β} {s t : σ} {a : α} {R : β → σ → Prop}
    (ran : x s = .ok a t) (rest : Yields (f a) t R) : Yields (x >>= f) s R := by
  obtain ⟨b,u,ended,after⟩ := rest
  exact ⟨b,u,(bind_of_ok ran f).trans ended,after⟩

theorem yields_attempt {x : EStateM ε σ α} {s : σ} {Q : Except ε α → σ → Prop}
    (returns : ∀ a t, x s = .ok a t → Q (.ok a) t) (fails : ∀ e t, x s = .error e t → Q (.error e) t) :
    Yields (attempt x) s Q := by
  cases ran : x s with
  | ok a t => exact ⟨_,t,attempt_of_ok ran,returns a t ran⟩
  | error e t => exact ⟨_,t,attempt_of_error ran,fails e t ran⟩

theorem Yields.mono {x : EStateM ε σ α} {s : σ} {Q R : α → σ → Prop} (yields : Yields x s Q)
    (weaker : ∀ a t, Q a t → R a t) : Yields x s R := by
  obtain ⟨a,t,ran,holds⟩ := yields
  exact ⟨a,t,ran,weaker a t holds⟩

theorem Yields.and {x : EStateM ε σ α} {s : σ} {Q R : α → σ → Prop} (first : Yields x s Q) (second : Yields x s R) :
    Yields x s (fun a t => Q a t ∧ R a t) := by
  obtain ⟨a,t,ran,holds⟩ := first
  obtain ⟨b,u,again,also⟩ := second
  cases ran.symm.trans again
  exact ⟨a,t,ran,holds,also⟩

/-- What every run of `x` keeps joins what it yields. -/
theorem Yields.and_keeps {x : EStateM ε σ α} {s : σ} {Q : α → σ → Prop} {R : σ → σ → Prop} (yields : Yields x s Q)
    (kept : Keeps R x) : Yields x s (fun a t => Q a t ∧ R s t) := by
  obtain ⟨a,t,ran,holds⟩ := yields
  have related := kept s
  rw [after_of_ok ran] at related
  exact ⟨a,t,ran,holds,related⟩

/-! Where the failures of an action end. -/

section FailsInto
variable {R : σ → Prop} {x : EStateM ε σ α} {s t : σ} {a : α} {e : ε}

/-- If `x` fails from `s`, it leaves a state of which `R` holds. -/
def FailsInto (R : σ → Prop) (x : EStateM ε σ α) (s : σ) : Prop := ∀ e t, x s = .error e t → R t

theorem failsInto_of_ok (ran : x s = .ok a t) : FailsInto R x s := by
  intro e u failed
  cases ran.symm.trans failed

theorem failsInto_error (failed : x s = .error e t) : FailsInto R x s ↔ R t := by
  constructor
  · intro into
    exact into e t failed
  · intro holds other u fails
    cases failed.symm.trans fails
    exact holds

theorem failsInto_bind_ok (ran : x s = .ok a t) (f : α → EStateM ε σ β) :
    FailsInto R (x >>= f) s ↔ FailsInto R (f a) t := by
  unfold FailsInto
  rw [bind_of_ok ran]

theorem failsInto_bind_error (failed : x s = .error e t) (f : α → EStateM ε σ β) : FailsInto R (x >>= f) s ↔ R t :=
  failsInto_error (bind_of_error failed f)

theorem failsInto_bind {R : σ → σ → Prop} [IsPreorder σ R] {f : α → EStateM ε σ β} (first : Keeps R x)
    (second : ∀ a t, FailsInto (R t) (f a) t) : FailsInto (R s) (x >>= f) s := by
  intro e u failed
  have kept := first s
  cases ran : x s with
  | ok a t =>
    rw [after_of_ok ran] at kept
    rw [bind_of_ok ran] at failed
    exact trans_of R kept (second a t e u failed)
  | error e t =>
    rw [after_of_error ran] at kept
    rw [bind_of_error ran] at failed
    cases failed
    exact kept

end FailsInto

/-! Actions over a larger state, seen through a part of it. -/

section Erases
variable {τ : Type}

def mapState (view : τ → σ) : EStateM.Result ε τ α → EStateM.Result ε σ α
  | .ok a t => .ok a (view t)
  | .error e t => .error e (view t)

/-- `x` does to the viewed part what `y` does, with the same result. -/
def Erases (view : τ → σ) (x : EStateM ε τ α) (y : EStateM ε σ α) : Prop := ∀ s, mapState view (x s) = y (view s)

variable {view : τ → σ}

theorem erases_pure (a : α) : Erases view (pure a : EStateM ε τ α) (pure a) := fun _ => rfl

theorem erases_bind {x : EStateM ε τ α} {y : EStateM ε σ α} {f : α → EStateM ε τ β} {g : α → EStateM ε σ β}
    (first : Erases view x y) (second : ∀ a, Erases view (f a) (g a)) : Erases view (x >>= f) (y >>= g) := by
  intro s
  have head := first s
  cases ran : x s with
  | ok a t =>
    rw [ran] at head
    rw [bind_of_ok ran,bind_of_ok head.symm]
    exact second a t
  | error e t =>
    rw [ran] at head
    rw [bind_of_error ran,bind_of_error head.symm]
    rfl

theorem erases_bind_silent {x : EStateM ε τ α} {f : α → EStateM ε τ β} {y : EStateM ε σ β}
    (silent : ∀ s, ∃ a t, x s = .ok a t ∧ view t = view s) (rest : ∀ a, Erases view (f a) y) :
    Erases view (x >>= f) y := by
  intro s
  obtain ⟨a,t,ran,same⟩ := silent s
  rw [bind_of_ok ran,← same]
  exact rest a t

theorem Erases.ok {x : EStateM ε τ α} {y : EStateM ε σ α} (erases : Erases view x y) {s t : τ} {a : α}
    (ran : x s = .ok a t) : y (view s) = .ok a (view t) := by
  rw [← erases s,ran]
  rfl

theorem Erases.after {x : EStateM ε τ α} {y : EStateM ε σ α} (erases : Erases view x y) (s : τ) :
    view (after x s) = Effect.after y (view s) := by
  unfold Effect.after
  rw [← erases s]
  cases x s <;> rfl

end Erases

end BitProtector.Effect
