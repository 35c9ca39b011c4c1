import Mathlib.Logic.Relation

/-! Labelled step machines and their runs. A run condition says which labels may
be taken in which states; the invariant rule carries a property along every run
whose steps all meet the condition. -/
namespace BitProtector

structure Machine (σ ℓ : Type) where
  step : ℓ → σ → Option σ

namespace Machine

variable {σ ℓ : Type} (M : Machine σ ℓ)

/-- States reached from `start` by steps that all meet `allowed`. -/
inductive Reaches (allowed : ℓ → σ → Prop) (start : σ) : σ → Prop
  | start : Reaches allowed start start
  | step {s t : σ} (l : ℓ) (before : Reaches allowed start s) (met : allowed l s)
      (taken : M.step l s = some t) : Reaches allowed start t

/-- Take the labels of a schedule in order. -/
def exec : σ → List ℓ → Option σ
  | s, [] => some s
  | s, l::rest => (M.step l s).bind (fun t => exec t rest)

variable {M}

theorem Reaches.invariant {allowed : ℓ → σ → Prop} {start t : σ} {I : σ → Prop}
    (reached : M.Reaches allowed start t) (initial : I start)
    (preserved : ∀ l s t, I s → allowed l s → M.step l s = some t → I t) : I t := by
  induction reached with
  | start => exact initial
  | step l _ met taken ih => exact preserved l _ _ ih met taken

theorem Reaches.trans {allowed : ℓ → σ → Prop} {start middle t : σ}
    (first : M.Reaches allowed start middle) (second : M.Reaches allowed middle t) :
    M.Reaches allowed start t := by
  induction second with
  | start => exact first
  | step l _ met taken ih => exact .step l ih met taken

theorem reaches_of_fitting {allowed : ℓ → σ → Prop} {start t : σ} {labels : List ℓ}
    (fits : ∀ l ∈ labels, ∀ s, allowed l s) (ran : M.exec start labels = some t) : M.Reaches allowed start t := by
  induction labels generalizing start with
  | nil =>
    cases ran
    exact .start
  | cons l rest ih =>
    obtain ⟨next,taken,ran⟩ := Option.bind_eq_some_iff.mp ran
    have first : M.Reaches allowed start next := .step l .start (fits l List.mem_cons_self start) taken
    exact first.trans (ih (fun other member => fits other (List.mem_cons_of_mem _ member)) ran)

theorem reaches_of_exec {start t : σ} {labels : List ℓ} (ran : M.exec start labels = some t) :
    M.Reaches (fun _ _ => True) start t :=
  reaches_of_fitting (fun _ _ _ => trivial) ran

end Machine

end BitProtector
