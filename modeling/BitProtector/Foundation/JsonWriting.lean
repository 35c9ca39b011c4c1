import BitProtector.Foundation.JsonReading
import Mathlib.Tactic.IntervalCases

/-! Texts of JSON that a program writes by putting values between quotes and braces, and what is read
of them. -/
namespace BitProtector.Json

/-- The decimal digits of a number. -/
def showNat (n : Nat) : List Char :=
  if n < 10 then [Char.ofNat (48 + n)] else showNat (n / 10) ++ [Char.ofNat (48 + n % 10)]

def showInt (n : Int) : List Char := if n < 0 then '-'::showNat n.natAbs else showNat n.natAbs

/-- An object of keys and the texts of their values. -/
def writeMembers : List (List Char × List Char) → List Char
  | [] => ['}']
  | [(key,text)] => '"' :: (key ++ '"' :: ':' :: (text ++ ['}']))
  | (key,text)::member::members => '"' :: (key ++ '"' :: ':' :: (text ++ ',' :: writeMembers (member::members)))

def writeObject (members : List (List Char × List Char)) : List Char := '{'::writeMembers members

theorem digit_code {n : Nat} (small : n < 10) : (Char.ofNat (48 + n)).toNat = 48 + n := by
  have valid : (48 + n).isValidChar := .inl (by omega)
  rw [Char.ofNat,dif_pos valid]
  rfl

theorem digit_isDigit {n : Nat} (small : n < 10) : (Char.ofNat (48 + n)).isDigit = true := by
  have code := digit_code small
  interval_cases n <;> rfl

theorem decimals_append (digits : List Char) (c : Char) : decimals (digits ++ [c]) = 10 * decimals digits + (c.toNat - 48) := by
  simp [decimals]

theorem showNat_spec (n : Nat) :
    (∀ c ∈ showNat n, c.isDigit = true) ∧ decimals (showNat n) = n ∧ showNat n ≠ [] ∧
      ((showNat n).head? = some '0' → showNat n = ['0']) := by
  induction n using showNat.induct with
  | case1 n small =>
    rw [showNat,if_pos small]
    refine ⟨by simp [digit_isDigit small],?_,by simp,?_⟩
    · simp [decimals,digit_code small]
    · intro zero
      rw [Option.some.inj zero]
  | case2 n large ih =>
    obtain ⟨digits,value,nonempty,zero⟩ := ih
    have last : n % 10 < 10 := Nat.mod_lt n (by omega)
    rw [showNat,if_neg large]
    refine ⟨?_,?_,by simp,?_⟩
    · intro c member
      rcases List.mem_append.mp member with front | back
      · exact digits c front
      · rw [List.mem_singleton.mp back]
        exact digit_isDigit last
    · rw [decimals_append,value,digit_code last]
      omega
    · intro first
      obtain ⟨c,cs,shape⟩ := List.exists_cons_of_ne_nil nonempty
      have leading := zero (by rw [shape] at first ⊢; exact first)
      have none : n / 10 = 0 := by
        rw [← value,leading]
        rfl
      omega

theorem weight_showNat (n : Nat) : weight (showNat n) = 0 := by
  have digits (text : List Char) (all : ∀ c ∈ text, c.isDigit = true) : weight text = 0 := by
    induction text with
    | nil => rfl
    | cons c text ih =>
      obtain ⟨first,others⟩ := List.forall_mem_cons.mp all
      have code : 48 ≤ c.toNat ∧ c.toNat ≤ 57 := by
        simpa [Char.isDigit,UInt32.le_iff_toNat_le] using first
      rw [weight_cons,ih others,weigh,if_pos (.inl code)]
  exact digits _ (showNat_spec n).1

theorem weight_showInt (n : Int) : weight (showInt n) = 0 := by
  have minus : weigh '-'.toNat = 0 := rfl
  unfold showInt
  split
  · rw [weight_cons,minus,weight_showNat]
  · exact weight_showNat _

/-- What stands behind a member. -/
def Ends (c : Char) : Prop := c = ',' ∨ c = '}'

theorem parseDigits_append {digits rest : List Char} {c : Char} (all : ∀ d ∈ digits, d.isDigit = true)
    (nonempty : digits ≠ []) (ends : c.isDigit = false) : parseDigits (digits ++ c::rest) = some (digits,c::rest) := by
  have taken : (digits ++ c::rest).takeWhile Char.isDigit = digits := by
    rw [List.takeWhile_append_of_pos all,List.takeWhile_cons_of_neg (by simp [ends]),List.append_nil]
  have left : (digits ++ c::rest).dropWhile Char.isDigit = c::rest := by
    rw [List.dropWhile_append_of_pos all,List.dropWhile_cons_of_neg (by simp [ends])]
  rw [parseDigits,taken,left,if_neg nonempty]

theorem parseUnsigned_showNat {c : Char} (ends : Ends c) (negative : Bool) (n : Nat) (rest : List Char) :
    parseUnsigned negative (showNat n ++ c::rest) = some (.number (nearest negative n 1),c::rest) := by
  obtain ⟨digits,value,nonempty,zero⟩ := showNat_spec n
  have other : c.isDigit = false ∧ c ≠ '.' ∧ c ≠ 'e' ∧ c ≠ 'E' := by
    rcases ends with rfl | rfl <;> decide
  have whole : parseWhole (showNat n ++ c::rest) = some (showNat n,c::rest) := by
    rw [parseWhole,parseDigits_append digits nonempty other.1,Option.bind_some,if_neg]
    rintro ⟨first,more⟩
    exact more (zero first)
  have fraction : parseFraction (c::rest) = some ([],c::rest) := by
    simp [parseFraction,other]
  have exponent : parseExponent (c::rest) = some (0,c::rest) := by
    simp [parseExponent,other]
  rw [parseUnsigned,whole,Option.bind_some,fraction,Option.bind_some,exponent,Option.map_some,List.append_nil,toDouble,value]
  simp

theorem parseNumber_showInt {c : Char} (ends : Ends c) (n : Int) (rest : List Char) :
    parseNumber (showInt n ++ c::rest) = some (.number (nearest (decide (n < 0)) n.natAbs 1),c::rest) := by
  unfold showInt
  by_cases negative : n < 0
  · rw [if_pos negative,List.cons_append,parseNumber,if_pos List.head?_cons,List.tail_cons,parseUnsigned_showNat ends]
    simp [negative]
  · obtain ⟨digits,_,nonempty,_⟩ := showNat_spec n.natAbs
    obtain ⟨d,ds,shape⟩ := List.exists_cons_of_ne_nil nonempty
    have first : d ≠ '-' := by
      rintro rfl
      have digit := digits '-' (by rw [shape]; exact List.mem_cons_self)
      cases digit
    have unsigned : (showNat n.natAbs ++ c::rest).head? ≠ some '-' := by
      rw [shape]
      simpa using first
    rw [if_neg negative,parseNumber,if_neg unsigned,parseUnsigned_showNat ends]
    simp [negative]

/-! Reading what was written. -/

theorem parseString_raw {c : Char} (plain : ¬Special c.toNat) (text : List Char) :
    parseString .plain (c::text) = (parseString .plain text).map (prepend (utf16 c)) := by
  have quote : c ≠ '"' := fun same => plain (.inr (.inl (by rw [same]; rfl)))
  have backslash : c ≠ '\\' := fun same => plain (.inr (.inr (by rw [same]; rfl)))
  have control : ¬c.toNat < 32 := fun less => plain (.inl less)
  rw [parseString,if_neg quote,if_neg backslash,if_neg control]

theorem parseString_escapedQuote (text : List Char) :
    parseString .plain ('\\' :: '"' :: text) = (parseString .plain text).map (prepend (utf16 '"')) := rfl

theorem parseString_plain {text : List Char} (plain : ∀ c ∈ text, ¬Special c.toNat) (rest : List Char) :
    parseString .plain (text ++ '"'::rest) = some (encode text,rest) := by
  induction text with
  | nil => rfl
  | cons c text ih =>
    obtain ⟨first,others⟩ := List.forall_mem_cons.mp plain
    rw [List.cons_append,parseString_raw first,ih others]
    rfl

/-- A text that is read as a value wherever it ends. -/
def Reads (text : List Char) (value : Value) : Prop :=
  ∀ fuel c rest, Ends c → parseValue (fuel + 1) (text ++ c::rest) = some (value,c::rest) ∧
    skip (text ++ c::rest) = text ++ c::rest

theorem skip_head {c : Char} (dark : isBlank c = false) (text : List Char) : skip (c::text) = c::text :=
  List.dropWhile_cons_of_neg (by simp [dark])

theorem reads_string {text : List Char} {units : List Nat}
    (read : ∀ rest, parseString .plain (text ++ '"'::rest) = some (units,rest)) :
    Reads ('"'::(text ++ ['"'])) (.string units) := by
  intro fuel c rest ends
  constructor
  · have whole := read (c::rest)
    simp [parseValue,whole]
  · exact skip_head rfl _

theorem reads_word {first : Char} {letters : List Char} {value : Value} (dark : isBlank first = false)
    (reads : ∀ fuel text, parseValue (fuel + 1) (first::letters ++ text) = word (first::letters) value (first::letters ++ text)) :
    Reads (first::letters) value := by
  intro fuel c rest ends
  constructor
  · rw [reads]
    simp [word]
  · exact skip_head dark _

theorem reads_true : Reads ['t','r','u','e'] (.bool true) := reads_word rfl fun _ _ => by simp [parseValue,parseWord]

theorem reads_false : Reads ['f','a','l','s','e'] (.bool false) := reads_word rfl fun _ _ => by simp [parseValue,parseWord]

theorem reads_null : Reads ['n','u','l','l'] .null := reads_word rfl fun _ _ => by simp [parseValue,parseWord]

theorem reads_int (n : Int) : Reads (showInt n) (.number (nearest (decide (n < 0)) n.natAbs 1)) := by
  intro fuel c rest ends
  obtain ⟨d,ds,shape,digit⟩ : ∃ d ds, showInt n = d::ds ∧ (d = '-' ∨ d.isDigit = true) := by
    obtain ⟨digits,_,nonempty,_⟩ := showNat_spec n.natAbs
    unfold showInt
    split
    · exact ⟨'-',_,rfl,.inl rfl⟩
    · obtain ⟨d,ds,shape⟩ := List.exists_cons_of_ne_nil nonempty
      exact ⟨d,ds,shape,.inr (digits d (by rw [shape]; exact List.mem_cons_self))⟩
  have number := parseNumber_showInt ends n rest
  rw [shape,List.cons_append] at number ⊢
  have other : isBlank d = false ∧ d ≠ '{' ∧ d ≠ '[' ∧ d ≠ '"' ∧ d ≠ 't' ∧ d ≠ 'f' ∧ d ≠ 'n' := by
    rcases digit with rfl | digit
    · decide
    · have not (e : Char) (letter : e.isDigit = false) : d ≠ e := by
        rintro rfl
        rw [digit] at letter
        cases letter
      have dark : isBlank d = false := by
        simp [isBlank,not ' ' rfl,not '\t' rfl,not '\n' rfl,not '\r' rfl]
      exact ⟨dark,not '{' rfl,not '[' rfl,not '"' rfl,not 't' rfl,not 'f' rfl,not 'n' rfl⟩
  constructor
  · simp [parseValue,parseWord,other,number]
  · exact skip_head other.1 _

theorem lastOfEach_distinct {members : List (List Nat × Value)} (distinct : (members.map Prod.fst).Nodup) :
    lastOfEach members = members := by
  have append (key : List Nat) (value : Value) {fields : List (List Nat × Value)} (fresh : key ∉ fields.map Prod.fst) :
      setField key value fields = fields ++ [(key,value)] := by
    induction fields with
    | nil => rfl
    | cons field fields ih =>
      rw [List.map_cons,List.mem_cons,not_or] at fresh
      rw [setField,if_neg (Ne.symm fresh.1),ih fresh.2,List.cons_append]
  have fold (members fields : List (List Nat × Value)) (distinct : ((fields ++ members).map Prod.fst).Nodup) :
      members.foldl (fun fields member => setField member.1 member.2 fields) fields = fields ++ members := by
    induction members generalizing fields with
    | nil => simp
    | cons member members ih =>
      have fresh : member.1 ∉ fields.map Prod.fst := by
        intro present
        rw [List.map_append,List.nodup_append] at distinct
        exact distinct.2.2 _ present _ List.mem_cons_self rfl
      rw [List.foldl_cons,append member.1 member.2 fresh,ih]
      · simp
      · simpa using distinct
  exact fold members [] distinct

/-- A key that stands for itself, and a text that is read as its value. -/
structure Written (member : List Char × List Char) (field : List Nat × Value) : Prop where
  plain : ∀ c ∈ member.1, ¬Special c.toNat
  key : field.1 = encode member.1
  reads : Reads member.2 field.2

section
variable {key text : List Char} {value : Value}

theorem parseMembers_last (plain : ∀ c ∈ key, ¬Special c.toNat) (reads : Reads text value) (fuel : Nat) (rest : List Char) :
    parseMembers (fuel + 2) ('"' :: (key ++ '"' :: ':' :: (text ++ '}' :: rest))) = some ([(encode key,value)],rest) := by
  obtain ⟨read,dark⟩ := reads fuel '}' rest (.inr rfl)
  have colon (text : List Char) : skip (':'::text) = ':'::text := skip_head rfl text
  have brace : skip ('}'::rest) = '}'::rest := skip_head rfl rest
  simp only [parseMembers,expect,List.head?_cons,if_true,List.tail_cons,Option.bind_some,parseString_plain plain,colon,dark,
    read,brace]

theorem parseMembers_more (plain : ∀ c ∈ key, ¬Special c.toNat) (reads : Reads text value) (fuel : Nat) (rest : List Char) :
    parseMembers (fuel + 2) ('"' :: (key ++ '"' :: ':' :: (text ++ ',' :: rest))) =
      (parseMembers (fuel + 1) (skip rest)).map fun read => ((encode key,value)::read.1,read.2) := by
  obtain ⟨read,dark⟩ := reads fuel ',' rest (.inl rfl)
  have colon (text : List Char) : skip (':'::text) = ':'::text := skip_head rfl text
  have comma : skip (','::rest) = ','::rest := skip_head rfl rest
  have open_ : ¬(some ',' = some '}') := by decide
  rw [parseMembers]
  simp only [expect,List.head?_cons,if_true,List.tail_cons,Option.bind_some,parseString_plain plain,colon,dark,
    read,comma,if_neg open_]

end

theorem writeMembers_head {members : List (List Char × List Char)} : skip (writeMembers members) = writeMembers members := by
  cases members with
  | nil => exact skip_head rfl _
  | cons member members =>
    cases members with
    | nil => exact skip_head rfl _
    | cons second more => exact skip_head rfl _

theorem parseMembers_write {members : List (List Char × List Char)} {fields : List (List Nat × Value)}
    (written : List.Forall₂ Written members fields) (nonempty : members ≠ []) (fuel : Nat) (enough : members.length < fuel) :
    parseMembers fuel (writeMembers members) = some (fields,[]) := by
  induction written generalizing fuel with
  | nil => exact absurd rfl nonempty
  | @cons member field members fields first rest ih =>
    obtain ⟨key,text⟩ := member
    obtain ⟨name,value⟩ := field
    obtain ⟨plain,rfl,reads⟩ := first
    obtain ⟨fuel,rfl⟩ : ∃ more, fuel = more + 2 := ⟨fuel - 2,by simp only [List.length_cons] at enough; omega⟩
    cases rest with
    | nil => exact parseMembers_last plain reads fuel []
    | cons second more =>
      have later := ih (List.cons_ne_nil _ _) (fuel + 1) (by simpa using enough)
      rw [writeMembers,parseMembers_more plain reads,writeMembers_head,later]
      rfl

theorem length_writeMembers (members : List (List Char × List Char)) : members.length ≤ (writeMembers members).length := by
  induction members with
  | nil => simp
  | cons member members ih =>
    cases members with
    | nil => simp [writeMembers]
    | cons second more =>
      simp only [writeMembers,List.length_cons,List.length_append] at ih ⊢
      omega

theorem parse_writeObject_last {members : List (List Char × List Char)} {fields : List (List Nat × Value)}
    (written : List.Forall₂ Written members fields) (nonempty : members ≠ []) :
    parse (writeObject members) = some (.object (lastOfEach fields)) := by
  have few := length_writeMembers members
  have read := parseMembers_write written nonempty (2 * (writeObject members).length + 1)
    (by simp only [writeObject,List.length_cons]; omega)
  have first : (writeMembers members).head? ≠ some '}' := by
    obtain ⟨member,others,rfl⟩ := List.exists_cons_of_ne_nil nonempty
    cases others <;> simp [writeMembers]
  have dark : skip (writeObject members) = writeObject members := skip_head rfl _
  rw [parse,dark,parseValue,writeObject,if_pos List.head?_cons,List.tail_cons,writeMembers_head,if_neg first]
  rw [writeObject] at read
  rw [read,Option.map_some,Option.bind_some]
  exact if_pos rfl

theorem parse_writeObject {members : List (List Char × List Char)} {fields : List (List Nat × Value)}
    (written : List.Forall₂ Written members fields) (nonempty : members ≠ []) (distinct : (fields.map Prod.fst).Nodup) :
    parse (writeObject members) = some (.object fields) := by
  rw [parse_writeObject_last written nonempty,lastOfEach_distinct distinct]

theorem weight_writeObject {members : List (List Char × List Char)} (nonempty : members ≠ []) :
    weight (writeObject members) = (members.map fun member => weight member.1 + weight member.2 + 4).sum + 1 := by
  have each (members : List (List Char × List Char)) (nonempty : members ≠ []) :
      weight (writeMembers members) = (members.map fun member => weight member.1 + weight member.2 + 4).sum := by
    have quote : weigh '"'.toNat = 1 := rfl
    have colon : weigh ':'.toNat = 1 := rfl
    have comma : weigh ','.toNat = 1 := rfl
    have brace : weigh '}'.toNat = 1 := rfl
    induction members with
    | nil => exact absurd rfl nonempty
    | cons member members ih =>
      cases members with
      | nil =>
        simp only [writeMembers,weight_cons,weight_append,weight_nil,quote,colon,brace,List.map_cons,List.map_nil,
          List.sum_cons,List.sum_nil]
        omega
      | cons second more =>
        have later := ih (List.cons_ne_nil _ _)
        simp only [writeMembers,weight_cons,weight_append,quote,colon,comma,List.map_cons,List.sum_cons] at later ⊢
        omega
  have brace : weigh '{'.toNat = 1 := rfl
  rw [writeObject,weight_cons,each members nonempty,brace,Nat.add_comm]

/-! Numbers that are their own doubles. -/

theorem roundHalfEven_one (a : Nat) : roundHalfEven a 1 = a := by
  simp [roundHalfEven,Nat.mod_one]

theorem magnitude_whole {a : Nat} (nonzero : a ≠ 0) : magnitude a 1 = a.log2 := by
  have low : Nat.pow 2 a.log2 ≤ a := Nat.log2_self_le nonzero
  have one : (1 : Nat).log2 = 0 := rfl
  have guess : ((a.log2 : Int) - (0 : Nat)).toNat = a.log2 ∧ (-((a.log2 : Int) - (0 : Nat))).toNat = 0 := by omega
  have unit : Nat.pow 2 0 = 1 := rfl
  rw [magnitude,one]
  rw [guess.1,guess.2,unit,Nat.one_mul,Nat.mul_one,if_pos low]
  omega

theorem nearest_small {n : Int} (small : n.natAbs < 9007199254740992) :
    nearest (decide (n < 0)) n.natAbs 1 = .finite (mkRat n 1) := by
  by_cases none : n.natAbs = 0
  · obtain rfl := Int.natAbs_eq_zero.mp none
    rfl
  · have digits : n.natAbs.log2 < 53 := (Nat.log2_lt none).mpr small
    have exponent : max ((n.natAbs.log2 : Int) - 52) (-1074) = (n.natAbs.log2 : Int) - 52 := by omega
    have up : ((n.natAbs.log2 : Int) - 52).toNat = 0 := by omega
    have shift : Nat.pow 2 (-((n.natAbs.log2 : Int) - 52)).toNat ≤ Nat.pow 2 52 :=
      Nat.pow_le_pow_right (by decide) (by omega)
    have positive : 0 < Nat.pow 2 (-((n.natAbs.log2 : Int) - 52)).toNat := Nat.pow_pos (by decide)
    have unit : Nat.pow 2 0 = 1 := rfl
    rw [nearest,if_neg none,magnitude_whole none]
    dsimp only
    rw [exponent,up,unit,Nat.one_mul,roundHalfEven_one,Nat.mul_one]
    generalize Nat.pow 2 (-((n.natAbs.log2 : Int) - 52)).toNat = scale at shift positive
    have product : n.natAbs * scale < 9007199254740992 * Nat.pow 2 52 :=
      Nat.mul_lt_mul_of_lt_of_le small shift (by decide)
    have range : 9007199254740992 * Nat.pow 2 52 < Nat.pow 2 1024 := by decide +kernel
    rw [if_neg (by omega)]
    have signed : (if decide (n < 0) = true then -((n.natAbs * scale : Nat) : Int) else (n.natAbs * scale : Nat)) =
      n * scale := by
      rw [Int.natCast_mul]
      by_cases negative : n < 0
      · have value : (n.natAbs : Int) = -n := by omega
        rw [if_pos (by simpa using negative),value]
        simp
      · have value : (n.natAbs : Int) = n := by omega
        rw [if_neg (by simpa using negative),value]
    have cancelled : mkRat (n * scale) (1 * scale) = mkRat n 1 := Rat.mkRat_mul_right (by omega)
    rw [Nat.one_mul] at cancelled
    rw [signed,cancelled]

end BitProtector.Json
