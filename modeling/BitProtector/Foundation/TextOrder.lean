import Mathlib.Data.List.Basic

/-! The order of texts by their code points, and decimals of a fixed width, whose order as texts is
their order as numbers. -/
namespace BitProtector.TextOrder

/-- The order of UTF-8 texts byte by byte; a text stands before its continuations. -/
def before : List Char → List Char → Bool
  | _,[] => false
  | [],_::_ => true
  | c::cs,d::ds => decide (c.toNat < d.toNat) || (c == d && before cs ds)

def digit (n : Nat) : Char := Char.ofNat (48 + n % 10)

/-- The last `width` decimal digits. -/
def padded : Nat → Nat → List Char
  | 0,_ => []
  | width + 1,n => padded width (n / 10) ++ [digit n]

/-- How many numbers have `width` digits. -/
def capacity : Nat → Nat
  | 0 => 1
  | width + 1 => 10 * capacity width

@[simp] theorem before_nil (text : List Char) : before text [] = false := by
  cases text <;> rfl

@[simp] theorem before_cons_cons (c d : Char) (cs ds : List Char) :
    before (c::cs) (d::ds) = true ↔ c.toNat < d.toNat ∨ c = d ∧ before cs ds = true := by
  simp [before]

@[simp] theorem before_self (text : List Char) : before text text = false := by
  induction text with
  | nil => rfl
  | cons c cs ih => simp [before,ih]

theorem before_append {first second : List Char} (same : first.length = second.length) (rest more : List Char) :
    before (first ++ rest) (second ++ more) = true ↔ before first second = true ∨ first = second ∧ before rest more = true := by
  induction first generalizing second with
  | nil =>
    obtain rfl := List.length_eq_zero_iff.mp same.symm
    simp
  | cons c cs ih =>
    obtain ⟨d,ds,rfl⟩ := List.exists_cons_of_length_eq_add_one same.symm
    have lengths : cs.length = ds.length := by simpa using same
    rw [List.cons_append,List.cons_append,before_cons_cons,before_cons_cons,ih lengths,List.cons.injEq]
    tauto

theorem digit_toNat (n : Nat) : (digit n).toNat = 48 + n % 10 := by
  have least : n % 10 < 10 := Nat.mod_lt n (by decide)
  have valid : (48 + n % 10).isValidChar := .inl (by omega)
  rw [digit,Char.ofNat,dif_pos valid]
  rfl

@[simp] theorem padded_length (width n : Nat) : (padded width n).length = width := by
  induction width generalizing n with
  | zero => rfl
  | succ width ih => simp [padded,ih]

theorem padded_injective {width a b : Nat} (low : a < capacity width) (high : b < capacity width)
    (same : padded width a = padded width b) : a = b := by
  induction width generalizing a b with
  | zero =>
    simp only [capacity] at low high
    omega
  | succ width ih =>
    simp only [capacity] at low high
    obtain ⟨front,last⟩ := List.append_inj same (by simp)
    have tens := ih (by omega) (by omega) front
    have units := congrArg Char.toNat (List.singleton_inj.mp last)
    rw [digit_toNat,digit_toNat] at units
    omega

theorem before_padded {width a b : Nat} (low : a < capacity width) (high : b < capacity width) :
    before (padded width a) (padded width b) = true ↔ a < b := by
  induction width generalizing a b with
  | zero =>
    simp only [capacity] at low high
    simp only [padded,before_nil,Bool.false_eq_true,false_iff]
    omega
  | succ width ih =>
    simp only [capacity] at low high
    rw [padded,padded,before_append (by simp),ih (by omega) (by omega),before_cons_cons,digit_toNat,digit_toNat,before_nil]
    simp only [Bool.false_eq_true,and_false,or_false]
    constructor
    · rintro (tens | ⟨front,units⟩)
      · omega
      · have tens := padded_injective (by omega) (by omega) front
        omega
    · intro less
      by_cases tens : a / 10 = b / 10
      · exact .inr ⟨by rw [tens],by omega⟩
      · exact .inl (by omega)

theorem before_field {width a b : Nat} (low : a < capacity width) (high : b < capacity width) (rest more : List Char) :
    before (padded width a ++ rest) (padded width b ++ more) = true ↔ a < b ∨ a = b ∧ before rest more = true := by
  rw [before_append (by simp),before_padded low high]
  refine or_congr_right (and_congr_left fun _ => ⟨padded_injective low high,?_⟩)
  rintro rfl
  rfl

end BitProtector.TextOrder
