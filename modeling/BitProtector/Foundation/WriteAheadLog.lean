import Mathlib.Data.List.Basic
import Mathlib.Data.List.DropRight

/-! A main file of pages and a log of frames beside it. A frame counts from the frame on
that commits it; a reader sees the counted frames over the pages of the main file. -/
namespace BitProtector.WriteAheadLog

variable {α : Type}

/-- The pages of a file, `none` behind its end. -/
abbrev Image (α : Type) := Nat → Option α

structure Frame (α : Type) where
  page : Nat
  content : α
  /-- A frame that commits tells how many pages there are from then on. -/
  commit : Option Nat
  deriving DecidableEq, Repr

def Frame.commits (frame : Frame α) : Bool := frame.commit.isSome

/-- What a frame leaves at a page: nothing of its own, or this content, or the end of the file. -/
def Frame.leaves (frame : Frame α) (page : Nat) : Option (Option α) :=
  if frame.commit.any (fun size => size ≤ page) then some none
  else if page = frame.page then some (some frame.content) else none

def Image.over (image : Image α) (frame : Frame α) : Image α := fun page => (frame.leaves page).getD (image page)

def replay (image : Image α) (frames : List (Frame α)) : Image α := frames.foldl Image.over image

/-- The frames up to the last one that commits. -/
def committed (frames : List (Frame α)) : List (Frame α) := frames.rdropWhile (fun frame => !frame.commits)

def shown (main : Image α) (log : List (Frame α)) : Image α := replay main (committed log)

/-- What the last of the frames that say anything about a page leaves there. -/
def lastLeft : List (Frame α) → Nat → Option (Option α)
  | [],_ => none
  | frame::frames,page => (lastLeft frames page).or (frame.leaves page)

@[simp] theorem replay_append (image : Image α) (front back : List (Frame α)) :
    replay image (front ++ back) = replay (replay image front) back := List.foldl_append

theorem replay_apply (image : Image α) (frames : List (Frame α)) (page : Nat) :
    replay image frames page = (lastLeft frames page).getD (image page) := by
  induction frames generalizing image with
  | nil => rfl
  | cons frame frames ih =>
    have first : replay image (frame::frames) page = replay (image.over frame) frames page := rfl
    rw [first,ih,lastLeft,Image.over]
    cases lastLeft frames page <;> simp

@[simp] theorem replay_replay (image : Image α) (frames : List (Frame α)) :
    replay (replay image frames) frames = replay image frames := by
  funext page
  simp only [replay_apply]
  cases lastLeft frames page <;> rfl

theorem replay_eq_self {image : Image α} {frames : List (Frame α)} :
    replay image frames = image ↔ ∀ page content, lastLeft frames page = some content → image page = content := by
  rw [funext_iff]
  apply forall_congr'
  intro page
  rw [replay_apply]
  cases lastLeft frames page with
  | none => simp
  | some content => simp [eq_comm]

@[simp] theorem shown_nil (main : Image α) : shown main [] = main := rfl

@[simp] theorem committed_committed (frames : List (Frame α)) : committed (committed frames) = committed frames :=
  List.rdropWhile_idempotent _ _

theorem committed_concat (frames : List (Frame α)) {frame : Frame α} (commits : frame.commits = true) :
    committed (frames ++ [frame]) = frames ++ [frame] := by
  apply List.rdropWhile_concat_neg
  simp [commits]

theorem shown_commit (main : Image α) (log frames : List (Frame α)) {last : Frame α} (commits : last.commits = true) :
    shown main (committed log ++ (frames ++ [last])) = replay (shown main log) (frames ++ [last]) := by
  rw [shown,← List.append_assoc,committed_concat _ commits,List.append_assoc,replay_append,shown]

theorem shown_uncommitted (main : Image α) (log : List (Frame α)) {frames : List (Frame α)}
    (none : ∀ frame ∈ frames, frame.commits = false) : shown main (committed log ++ frames) = shown main log := by
  have dropped : committed (committed log ++ frames) = committed log := by
    induction frames using List.reverseRecOn with
    | nil => simp
    | append_singleton frames frame ih =>
      have skipped : committed (committed log ++ frames ++ [frame]) = committed (committed log ++ frames) := by
        apply List.rdropWhile_concat_pos
        simp [none frame (by simp)]
      rw [← List.append_assoc,skipped]
      exact ih fun other member => none other (by simp [member])
  rw [shown,dropped,shown]

theorem shown_checkpoint (main : Image α) {log front : List (Frame α)} (early : front <+: committed log) :
    shown (replay main front) log = shown main log := by
  obtain ⟨back,split⟩ := early
  rw [shown,shown,← split,replay_append,replay_append,replay_replay]

theorem shown_eq_main {main : Image α} {log : List (Frame α)} :
    shown main log = main ↔ ∀ page content, lastLeft (committed log) page = some content → main page = content :=
  replay_eq_self

end BitProtector.WriteAheadLog
