import BitProtector.Foundation.Effect

/-! Programs that note what they ask of the outside before they ask for it. Without its
notes such a program is an ordinary one. -/
namespace BitProtector.Requests

variable {ε σ ρ α : Type}

structure Noted (σ ρ : Type) where
  state : σ
  notes : List ρ

/-- A step that asks for nothing, or has it noted already. -/
def lift (x : EStateM ε σ α) : EStateM ε (Noted σ ρ) α := fun s =>
  match x s.state with
  | .ok a t => .ok a ⟨t,s.notes⟩
  | .error e t => .error e ⟨t,s.notes⟩

def note (request : ρ) : EStateM ε (Noted σ ρ) Unit := fun s => .ok () ⟨s.state,s.notes ++ [request]⟩

theorem lift_of_ok {x : EStateM ε σ α} {s t : σ} {a : α} (ok : x s = .ok a t) (notes : List ρ) :
    lift x ⟨s,notes⟩ = .ok a ⟨t,notes⟩ := by
  simp only [lift,ok]

theorem lift_of_error {x : EStateM ε σ α} {s t : σ} {e : ε} (failed : x s = .error e t) (notes : List ρ) :
    lift x ⟨s,notes⟩ = .error e ⟨t,notes⟩ := by
  simp only [lift,failed]

theorem erases_lift (x : EStateM ε σ α) : Effect.Erases Noted.state (lift x : EStateM ε (Noted σ ρ) α) x := by
  intro s
  unfold lift
  cases x s.state <;> rfl

theorem erases_note {f : Unit → EStateM ε (Noted σ ρ) α} {y : EStateM ε σ α} (rest : Effect.Erases Noted.state (f ()) y)
    (request : ρ) : Effect.Erases Noted.state (note request >>= f) y :=
  fun s => rest ⟨s.state,s.notes ++ [request]⟩

end BitProtector.Requests
