import BitProtector.Foundation.SlidingWindow

/-! The rate limiter of the API. Times are those of the requests' `Instant::now`, in
nanoseconds; the lock puts the requests in one order, and the clock does not go back. -/
namespace BitProtector.RateLimiting
open SlidingWindow

/-- A key that was never seen and a key without entries are the same. -/
structure RateLimiter where
  requests : String → List Nat
  maxRequests : Nat
  window : Nat

def new (maxRequests windowSecs : Nat) : RateLimiter := ⟨fun _ => [],maxRequests,windowSecs * 1000000000⟩

/-- `Instant::duration_since` is zero for a later instant. -/
def durationSince (now t : Nat) : Nat := now - t

def isAllowed (limiter : RateLimiter) (key : String) (now : Nat) : Bool × RateLimiter :=
  let entry := (limiter.requests key).filter (fun t => durationSince now t < limiter.window)
  if entry.length < limiter.maxRequests then
    (true,{ limiter with requests := Function.update limiter.requests key (entry ++ [now]) })
  else (false,{ limiter with requests := Function.update limiter.requests key entry })

/-- A request of a key at a time. -/
abbrev Request := String × Nat

/-- The requests with their verdicts, in order. -/
def verdicts (limiter : RateLimiter) (requests : List Request) : List (Request × Bool) :=
  answers (fun limiter request => isAllowed limiter request.1 request.2) limiter requests

/-- How many requests of `key` were allowed at the times of a set. -/
def allowedAt (log : List (Request × Bool)) (key : String) (times : Nat → Bool) : Nat :=
  log.countP (fun entry => entry.1.1 = key ∧ entry.2 = true ∧ times entry.1.2 = true)

theorem isAllowed_accepts (limiter : RateLimiter) (key : String) (now : Nat) :
    isAllowed limiter key now =
      ((keyed (accept limiter.maxRequests limiter.window) limiter.requests (key,now)).1,
        { limiter with requests := (keyed (accept limiter.maxRequests limiter.window) limiter.requests (key,now)).2 }) := by
  by_cases room : ((limiter.requests key).filter (recent limiter.window now)).length < limiter.maxRequests
  · rw [isAllowed,keyed,accept,if_pos room]
    exact if_pos room
  · rw [isAllowed,keyed,accept,if_neg room]
    exact if_neg room

theorem verdicts_accept (limiter : RateLimiter) (requests : List Request) :
    verdicts limiter requests =
      answers (keyed (accept limiter.maxRequests limiter.window)) limiter.requests requests := by
  induction requests generalizing limiter with
  | nil => rfl
  | cons request rest ih =>
    rw [verdicts,answers,isAllowed_accepts]
    exact congrArg _ (ih _)

theorem allowedAt_accepted (maxRequests windowSecs : Nat) (requests : List Request) (key : String) (times : Nat → Bool) :
    allowedAt (verdicts (new maxRequests windowSecs) requests) key times =
      (acceptedOf maxRequests (windowSecs * 1000000000) (inputsOf key requests)).countP times := by
  rw [allowedAt,verdicts_accept]
  calc (answers (keyed (accept maxRequests (windowSecs * 1000000000))) (fun _ => []) requests).countP
        (fun entry => entry.1.1 = key ∧ entry.2 = true ∧ times entry.1.2 = true)
      = ((answers (keyed (accept maxRequests (windowSecs * 1000000000))) (fun _ => []) requests).filter
          (fun entry => entry.1.1 = key)).countP (fun entry => entry.2 && times entry.1.2) := by
        rw [List.countP_filter]
        congr 1
        funext entry
        simp [and_comm]
    _ = (answers (accept maxRequests (windowSecs * 1000000000)) [] (inputsOf key requests)).countP
          (fun entry => entry.2 && times entry.1) := by
        rw [answers_keyed,List.countP_map]
        rfl
    _ = (acceptedOf maxRequests (windowSecs * 1000000000) (inputsOf key requests)).countP times := by
        rw [acceptedOf,accepted,List.countP_map,List.countP_filter]
        congr 1
        funext entry
        exact Bool.and_comm entry.2 (times entry.1)

theorem ordered_inputs {requests : List Request} (ordered : requests.Pairwise (fun a b => a.2 ≤ b.2)) (key : String) :
    (inputsOf key requests).Pairwise (· ≤ ·) := by
  rw [inputsOf,List.pairwise_map]
  exact ordered.filter _

/-- The limiter enforces its window exactly. -/
theorem limiter_exact (maxRequests windowSecs : Nat) (requests : List Request)
    (ordered : requests.Pairwise (fun a b => a.2 ≤ b.2)) :
    (∀ key t, allowedAt (verdicts (new maxRequests windowSecs) requests) key
      (fun u => t ≤ u ∧ u < t + (new maxRequests windowSecs).window) ≤ maxRequests) ∧
    (∀ i request, (verdicts (new maxRequests windowSecs) requests)[i]? = some (request,false) →
      maxRequests ≤ allowedAt ((verdicts (new maxRequests windowSecs) requests).take i) request.1
        (fun u => request.2 < u + (new maxRequests windowSecs).window ∧ u ≤ request.2)) ∧
    ∀ key, (verdicts (new maxRequests windowSecs) requests).filter (fun entry => entry.1.1 = key) =
      verdicts (new maxRequests windowSecs) (requests.filter (fun request => request.1 = key)) := by
  refine ⟨?windows,?denials,?keys⟩
  case windows =>
    intro key t
    rw [allowedAt_accepted]
    exact window_bound (ordered_inputs ordered key) t
  case denials =>
    intro i request there
    obtain ⟨asked,answer⟩ := answers_getElem? (verdicts_accept _ requests ▸ there)
    obtain ⟨inside,here⟩ := List.getElem?_eq_some_iff.mp asked
    dsimp only at here answer
    have split : requests = requests.take i ++ request::requests.drop (i + 1) := by
      rw [← here,List.getElem_cons_drop,List.take_append_drop]
    obtain ⟨before,-,sorted⟩ := List.pairwise_append.mp (split ▸ ordered)
    have past : ∀ t ∈ inputsOf request.1 (requests.take i), t ≤ request.2 := by
      intro t member
      obtain ⟨earlier,kept,rfl⟩ := List.mem_map.mp member
      exact sorted earlier (List.mem_filter.mp kept).1 request (by simp)
    have taken : (verdicts (new maxRequests windowSecs) requests).take i =
        verdicts (new maxRequests windowSecs) (requests.take i) := answers_take _ requests i
    rw [taken,allowedAt_accepted]
    apply denied_full (ordered_inputs before request.1) past
    rw [keyed,final_keyed] at answer
    exact answer.symm
  case keys =>
    intro key
    rw [verdicts_accept,verdicts_accept]
    exact answers_independent _ requests key

/-- Three requests of one key, the last at the end of the window, and one of another. -/
def sampleRequests : List Request := [("10.0.0.7",5),("10.0.0.7",6),("10.0.0.9",6),("10.0.0.7",1000000005)]

theorem limiter_exact_sample :
    allowedAt (verdicts (new 1 1) sampleRequests) "10.0.0.7" (fun u => 5 ≤ u ∧ u < 5 + 1000000000) ≤ 1 ∧
    verdicts (new 1 1) sampleRequests =
      [(("10.0.0.7",5),true),(("10.0.0.7",6),false),(("10.0.0.9",6),true),(("10.0.0.7",1000000005),true)] :=
  ⟨(limiter_exact 1 1 sampleRequests (by decide)).1 "10.0.0.7" 5,by decide⟩

end BitProtector.RateLimiting
