import Mathlib.Data.List.Induction
import Mathlib.Logic.Function.Basic

/-! Machines that answer each input of a stream, a family of them with one state for each
key, and the machine that accepts at most so many inputs within any window of time. -/
namespace BitProtector.SlidingWindow

section Answers

variable {σ α β : Type} (step : σ → α → β × σ)

def final : σ → List α → σ
  | s, [] => s
  | s, a::rest => final (step s a).2 rest

/-- Every input with its answer. -/
def answers : σ → List α → List (α × β)
  | _, [] => []
  | s, a::rest => (a,(step s a).1)::answers (step s a).2 rest

variable {step}

@[simp] theorem final_append (s : σ) (first second : List α) :
    final step s (first ++ second) = final step (final step s first) second := by
  induction first generalizing s with
  | nil => rfl
  | cons a rest ih => exact ih (step s a).2

@[simp] theorem answers_append (s : σ) (first second : List α) :
    answers step s (first ++ second) = answers step s first ++ answers step (final step s first) second := by
  induction first generalizing s with
  | nil => rfl
  | cons a rest ih => simp [answers,final,ih]

@[simp] theorem answers_length (s : σ) (inputs : List α) : (answers step s inputs).length = inputs.length := by
  induction inputs generalizing s with
  | nil => rfl
  | cons a rest ih => simp [answers,ih]

theorem answers_take (s : σ) (inputs : List α) (i : Nat) :
    (answers step s inputs).take i = answers step s (inputs.take i) := by
  induction inputs generalizing s i with
  | nil => simp [answers]
  | cons a rest ih =>
    cases i with
    | zero => simp [answers]
    | succ i => simp [answers,ih]

theorem answers_getElem? {s : σ} {inputs : List α} {i : Nat} {entry : α × β}
    (there : (answers step s inputs)[i]? = some entry) :
    inputs[i]? = some entry.1 ∧ entry.2 = (step (final step s (inputs.take i)) entry.1).1 := by
  induction inputs generalizing s i with
  | nil => simp [answers] at there
  | cons a rest ih =>
    cases i with
    | zero =>
      obtain rfl : (a,(step s a).1) = entry := by simpa [answers] using there
      simp [final]
    | succ i => simpa [final] using ih (by simpa [answers] using there)

end Answers

section Keyed

variable {κ σ α β : Type} [DecidableEq κ] (step : σ → α → β × σ)

/-- An input goes to the state of its key alone. -/
def keyed (states : κ → σ) (input : κ × α) : β × (κ → σ) :=
  ((step (states input.1) input.2).1,Function.update states input.1 (step (states input.1) input.2).2)

def inputsOf (key : κ) (inputs : List (κ × α)) : List α := (inputs.filter (fun input => input.1 = key)).map Prod.snd

variable {step}

theorem inputsOf_own (key : κ) (a : α) (rest : List (κ × α)) : inputsOf key ((key,a)::rest) = a::inputsOf key rest := by
  simp [inputsOf]

theorem inputsOf_other {key other : κ} (different : other ≠ key) (a : α) (rest : List (κ × α)) :
    inputsOf key ((other,a)::rest) = inputsOf key rest := by
  simp [inputsOf,different]

@[simp] theorem inputsOf_filter (key : κ) (inputs : List (κ × α)) :
    inputsOf key (inputs.filter (fun input => input.1 = key)) = inputsOf key inputs := by
  simp [inputsOf]

theorem final_keyed (states : κ → σ) (inputs : List (κ × α)) (key : κ) :
    final (keyed step) states inputs key = final step (states key) (inputsOf key inputs) := by
  induction inputs generalizing states with
  | nil => rfl
  | cons input rest ih =>
    obtain ⟨other,a⟩ := input
    by_cases own : other = key
    · subst own
      rw [inputsOf_own,final,ih,final]
      simp [keyed]
    · rw [inputsOf_other own,final,ih]
      simp [keyed,Function.update_of_ne (Ne.symm own)]

theorem answers_keyed (states : κ → σ) (inputs : List (κ × α)) (key : κ) :
    (answers (keyed step) states inputs).filter (fun entry => entry.1.1 = key) =
      (answers step (states key) (inputsOf key inputs)).map (fun entry => ((key,entry.1),entry.2)) := by
  induction inputs generalizing states with
  | nil => rfl
  | cons input rest ih =>
    obtain ⟨other,a⟩ := input
    by_cases own : other = key
    · subst own
      rw [inputsOf_own,answers,List.filter_cons_of_pos (by simp),ih,answers]
      simp [keyed]
    · rw [inputsOf_other own,answers,List.filter_cons_of_neg (by simpa using own),ih]
      simp [keyed,Function.update_of_ne (Ne.symm own)]

theorem answers_independent (states : κ → σ) (inputs : List (κ × α)) (key : κ) :
    (answers (keyed step) states inputs).filter (fun entry => entry.1.1 = key) =
      answers (keyed step) states (inputs.filter (fun input => input.1 = key)) := by
  have alone : answers (keyed step) states (inputs.filter (fun input => input.1 = key)) =
      (answers (keyed step) states (inputs.filter (fun input => input.1 = key))).filter (fun entry => entry.1.1 = key) := by
    symm
    rw [List.filter_eq_self]
    intro entry member
    obtain ⟨i,there⟩ := List.mem_iff_getElem?.mp member
    have input := List.mem_of_getElem? (answers_getElem? there).1
    simpa using (List.mem_filter.mp input).2
  rw [alone,answers_keyed,answers_keyed,inputsOf_filter]

end Keyed

section Acceptance

variable (limit window : Nat)

def recent (now t : Nat) : Bool := now - t < window

/-- Forget what has left the window, and accept while there is room in it. -/
def accept (kept : List Nat) (now : Nat) : Bool × List Nat :=
  if (kept.filter (recent window now)).length < limit then (true,kept.filter (recent window now) ++ [now])
  else (false,kept.filter (recent window now))

def accepted (log : List (Nat × Bool)) : List Nat := (log.filter Prod.snd).map Prod.fst

/-- The times accepted of a stream. -/
abbrev acceptedOf (times : List Nat) : List Nat := accepted (answers (accept limit window) [] times)

abbrev keptOf (times : List Nat) : List Nat := final (accept limit window) [] times

variable {limit window}

theorem acceptedOf_concat (times : List Nat) (now : Nat) :
    acceptedOf limit window (times ++ [now]) =
      acceptedOf limit window times ++ if (accept limit window (keptOf limit window times) now).1 then [now] else [] := by
  rw [acceptedOf,answers_append,accepted,List.filter_append,List.map_append]
  by_cases granted : (accept limit window (keptOf limit window times) now).1 = true <;> simp [answers,accepted,granted]

theorem mem_acceptedOf {times : List Nat} {t : Nat} (member : t ∈ acceptedOf limit window times) : t ∈ times := by
  obtain ⟨entry,kept,rfl⟩ := List.mem_map.mp member
  obtain ⟨i,there⟩ := List.mem_iff_getElem?.mp (List.mem_filter.mp kept).1
  exact List.mem_of_getElem? (answers_getElem? there).1

theorem recent_earlier {t now later : Nat} (order : now ≤ later) (still : recent window later t = true) :
    recent window now t = true := by
  simp only [recent,decide_eq_true_eq] at still ⊢
  omega

theorem filter_recent (l : List Nat) {now later : Nat} (order : now ≤ later) :
    (l.filter (recent window now)).filter (recent window later) = l.filter (recent window later) := by
  rw [List.filter_filter]
  congr 1
  funext t
  by_cases still : recent window later t = true
  · simp [still,recent_earlier order still]
  · simp [still]

theorem kept_recent {times : List Nat} (ordered : times.Pairwise (· ≤ ·)) {now : Nat} (past : ∀ t ∈ times, t ≤ now) :
    (keptOf limit window times).filter (recent window now) = (acceptedOf limit window times).filter (recent window now) := by
  induction times using List.reverseRecOn generalizing now with
  | nil => rfl
  | append_singleton earlier t ih =>
    obtain ⟨before,-,sorted⟩ := List.pairwise_append.mp ordered
    have reached : t ≤ now := past t (by simp)
    have same := ih before (fun u member => past u (List.mem_append_left _ member))
    rw [acceptedOf_concat,List.filter_append,← same,keptOf,final_append]
    simp only [final,accept]
    split
    · rw [List.filter_append,filter_recent _ reached,if_pos rfl]
    · rw [filter_recent _ reached]
      simp

theorem denied_full {times : List Nat} (ordered : times.Pairwise (· ≤ ·)) {now : Nat} (past : ∀ t ∈ times, t ≤ now)
    (denied : (accept limit window (keptOf limit window times) now).1 = false) :
    limit ≤ (acceptedOf limit window times).countP (fun t => now < t + window ∧ t ≤ now) := by
  have full : ¬ ((keptOf limit window times).filter (recent window now)).length < limit := by
    intro room
    simp [accept,room] at denied
  rw [kept_recent ordered past,← List.countP_eq_length_filter] at full
  apply Nat.le_trans (Nat.not_lt.mp full)
  apply List.countP_mono_left
  intro t member seen
  have before := past t (mem_acceptedOf member)
  simp only [recent,decide_eq_true_eq] at seen ⊢
  omega

theorem window_bound {times : List Nat} (ordered : times.Pairwise (· ≤ ·)) (start : Nat) :
    (acceptedOf limit window times).countP (fun t => start ≤ t ∧ t < start + window) ≤ limit := by
  induction times using List.reverseRecOn with
  | nil => simp [acceptedOf,answers,accepted]
  | append_singleton earlier now ih =>
    obtain ⟨before,-,sorted⟩ := List.pairwise_append.mp ordered
    have past : ∀ t ∈ earlier, t ≤ now := fun t member => sorted t member now (by simp)
    have held := ih before
    rw [acceptedOf_concat]
    split
    case isFalse => simpa using held
    case isTrue granted =>
      by_cases inside : start ≤ now ∧ now < start + window
      · have room : ((keptOf limit window earlier).filter (recent window now)).length < limit := by
          by_contra full
          simp [accept,full] at granted
        rw [kept_recent before past,← List.countP_eq_length_filter] at room
        -- What the window of `start` holds so far is still recent at `now`.
        have seen : (acceptedOf limit window earlier).countP (fun t => start ≤ t ∧ t < start + window) ≤
            (acceptedOf limit window earlier).countP (recent window now) := by
          apply List.countP_mono_left
          intro t member own
          simp only [recent,decide_eq_true_eq] at own ⊢
          omega
        rw [List.countP_append]
        simp only [List.countP_singleton]
        split <;> omega
      · rw [List.countP_append]
        simpa [inside] using held

end Acceptance

end BitProtector.SlidingWindow
