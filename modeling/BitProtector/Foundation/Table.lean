import Mathlib.Data.List.Basic
import Mathlib.Data.List.Pairwise

/-! Tables of rows with an ascending integer key that is never reused, as an
`INTEGER PRIMARY KEY AUTOINCREMENT` column gives it: the order of the list is
the order by key, so a query `ORDER BY id` is the list itself. -/
namespace BitProtector

class Keyed (ρ : Type) where
  key : ρ → Nat

structure Table (ρ : Type) [Keyed ρ] where
  rows : List ρ
  lastId : Nat
  ascending : rows.Pairwise (fun a b => Keyed.key a < Keyed.key b)
  bounded : ∀ r ∈ rows, Keyed.key r ≤ lastId

namespace Table
open Keyed

variable {ρ : Type} [Keyed ρ]

def empty : Table ρ := ⟨[],0,.nil,by simp⟩

/-- `SELECT ... WHERE id = ?`. -/
def find? (t : Table ρ) (id : Nat) : Option ρ := t.rows.find? (fun r => key r == id)

/-- `UPDATE ... SET ... WHERE ...`, by a change that leaves the key alone. -/
def updateWhere (t : Table ρ) (p : ρ → Bool) (f : ρ → ρ) (keepsKey : ∀ r, key (f r) = key r) : Table ρ where
  rows := t.rows.map (fun r => if p r then f r else r)
  lastId := t.lastId
  ascending := by
    rw [List.pairwise_map]
    refine t.ascending.imp ?_
    intro a b less
    split <;> split <;> simpa only [keepsKey] using less
  bounded := by
    intro r member
    obtain ⟨old,present,rfl⟩ := List.mem_map.mp member
    have bound := t.bounded old present
    split <;> simpa only [keepsKey] using bound

/-- `INSERT`: the new row gets the next key. -/
def insert (t : Table ρ) (row : Nat → ρ) (keyed : ∀ n, key (row n) = n) : Table ρ where
  rows := t.rows ++ [row (t.lastId + 1)]
  lastId := t.lastId + 1
  ascending := by
    rw [List.pairwise_append]
    refine ⟨t.ascending,List.pairwise_singleton _ _,?_⟩
    intro a present b new
    rw [List.mem_singleton.mp new,keyed]
    exact Nat.lt_succ_of_le (t.bounded a present)
  bounded := by
    intro r member
    rcases List.mem_append.mp member with old | new
    · exact Nat.le_succ_of_le (t.bounded r old)
    · exact Nat.le_of_eq ((congrArg Keyed.key (List.mem_singleton.mp new)).trans (keyed _))

/-- `DELETE ... WHERE ...`. -/
def deleteWhere (t : Table ρ) (p : ρ → Bool) : Table ρ where
  rows := t.rows.filter (fun r => !p r)
  lastId := t.lastId
  ascending := t.ascending.filter _
  bounded := fun r member => t.bounded r (List.mem_filter.mp member).1

theorem key_injective (t : Table ρ) {a b : ρ} (ha : a ∈ t.rows) (hb : b ∈ t.rows)
    (same : key a = key b) : a = b := by
  by_contra differ
  have symmetric : Std.Symm (fun a b : ρ => key a ≠ key b) := ⟨fun _ _ h => h.symm⟩
  have apart : t.rows.Pairwise (fun a b => key a ≠ key b) := t.ascending.imp Nat.ne_of_lt
  exact apart.forall ha hb differ same

theorem find?_eq_some {t : Table ρ} {id : Nat} {r : ρ} :
    t.find? id = some r ↔ r ∈ t.rows ∧ key r = id := by
  constructor
  · intro found
    exact ⟨List.mem_of_find?_eq_some found,by simpa using List.find?_some found⟩
  · rintro ⟨member,rfl⟩
    cases found : t.find? (key r) with
    | none => simpa using List.find?_eq_none.mp found r member
    | some other =>
      have same : key other = key r := by simpa using List.find?_some found
      rw [t.key_injective (List.mem_of_find?_eq_some found) member same]

theorem find?_eq_none {t : Table ρ} {id : Nat} : t.find? id = none ↔ ∀ r ∈ t.rows, key r ≠ id := by
  simp [find?]

theorem find?_key {t : Table ρ} {id : Nat} {r : ρ} (found : t.find? id = some r) : key r = id :=
  (find?_eq_some.mp found).2

theorem mem_of_find? {t : Table ρ} {id : Nat} {r : ρ} (found : t.find? id = some r) : r ∈ t.rows :=
  (find?_eq_some.mp found).1

theorem find?_of_mem (t : Table ρ) {r : ρ} (member : r ∈ t.rows) : t.find? (key r) = some r :=
  find?_eq_some.mpr ⟨member,rfl⟩

@[simp] theorem updateWhere_rows (t : Table ρ) (p : ρ → Bool) (f : ρ → ρ) (keepsKey) :
    (t.updateWhere p f keepsKey).rows = t.rows.map (fun r => if p r then f r else r) := rfl

@[simp] theorem insert_rows (t : Table ρ) (row : Nat → ρ) (keyed) :
    (t.insert row keyed).rows = t.rows ++ [row (t.lastId + 1)] := rfl

@[simp] theorem deleteWhere_rows (t : Table ρ) (p : ρ → Bool) :
    (t.deleteWhere p).rows = t.rows.filter (fun r => !p r) := rfl

theorem find?_updateWhere (t : Table ρ) (p : ρ → Bool) (f : ρ → ρ) (keepsKey) (id : Nat) :
    (t.updateWhere p f keepsKey).find? id = (t.find? id).map (fun r => if p r then f r else r) := by
  have same : ((fun r => key r == id) ∘ fun r => if p r then f r else r) = fun r => key r == id := by
    funext r
    by_cases hp : p r <;> simp [hp,keepsKey]
  simp only [find?,updateWhere_rows,List.find?_map,same]

theorem find?_next (t : Table ρ) : t.find? (t.lastId + 1) = none :=
  find?_eq_none.mpr fun r member => Nat.ne_of_lt (Nat.lt_succ_of_le (t.bounded r member))

theorem find?_insert (t : Table ρ) (row : Nat → ρ) (keyed) (id : Nat) :
    (t.insert row keyed).find? id =
      if id = t.lastId + 1 then some (row (t.lastId + 1)) else t.find? id := by
  split
  · rename_i new
    subst new
    exact find?_eq_some.mpr ⟨by simp,keyed _⟩
  · rename_i old
    have other : (key (row (t.lastId + 1)) == id) = false := by
      simpa only [keyed,beq_eq_false_iff_ne] using Ne.symm old
    simp [find?,other]

theorem find?_deleteWhere (t : Table ρ) (p : ρ → Bool) (id : Nat) :
    (t.deleteWhere p).find? id = (t.find? id).filter (fun r => !p r) := by
  cases found : t.find? id with
  | none =>
    rw [Option.filter_none]
    exact find?_eq_none.mpr fun r member => find?_eq_none.mp found r (List.mem_filter.mp member).1
  | some r =>
    by_cases hp : p r
    · simp only [Option.filter,hp,Bool.not_true,Bool.false_eq_true,if_false]
      refine find?_eq_none.mpr fun other member same => ?_
      obtain ⟨present,kept⟩ := List.mem_filter.mp member
      have eq := t.key_injective present (mem_of_find? found) (same.trans (find?_key found).symm)
      simp [eq,hp] at kept
    · simp only [Option.filter,hp,Bool.not_false,if_true]
      exact find?_eq_some.mpr ⟨List.mem_filter.mpr ⟨mem_of_find? found,by simp [hp]⟩,find?_key found⟩

end Table

end BitProtector
