import BitProtector.Foundation.Json
import Mathlib.Algebra.GroupWithZero.Nat
import Mathlib.Algebra.Order.BigOperators.Group.List

/-! What reading a text of JSON tells of it: what a call can read, that the fuel of `parse` is enough, and
how heavy a text must be to stand for a value. -/
namespace BitProtector.Json

/-! How heavy a text is, when the characters of numbers weigh nothing. -/

def weigh (code : Nat) : Nat :=
  if (48 ≤ code ∧ code ≤ 57) ∨ code = 43 ∨ code = 45 ∨ code = 46 ∨ code = 69 ∨ code = 101 then 0 else 1

def weight (text : List Char) : Nat := (text.map fun c => weigh c.toNat).sum

/-- The quote, the backslash and the control characters do not stand for themselves in a string. -/
def Special (code : Nat) : Prop := code < 32 ∨ code = 34 ∨ code = 92

instance : DecidablePred Special := fun _ => inferInstanceAs (Decidable (_ ∨ _))

/-- The least weight of what stands for a unit; of a pair of surrogates the first counts. -/
def unitWeight (unit : Nat) : Nat :=
  if Special unit then 2 else if 0xDC00 ≤ unit ∧ unit ≤ 0xDFFF then 0 else weigh unit

def unitsWeight (units : List Nat) : Nat := (units.map unitWeight).sum

/-- A lower bound for what stands for a value; nothing is said of arrays and objects. -/
def leastWeight : Value → Nat
  | .null => 4
  | .bool true => 3
  | .bool false => 4
  | .number _ => 0
  | .string units => unitsWeight units + 2
  | .array _ => 0
  | .object _ => 0

/-- A member with its quotes, its colon and what follows it. -/
def memberWeight (member : List Nat × Value) : Nat := unitsWeight member.1 + leastWeight member.2 + 4

def membersWeight (members : List (List Nat × Value)) : Nat := (members.map memberWeight).sum

@[simp] theorem weight_nil : weight [] = 0 := rfl

@[simp] theorem weight_cons (c : Char) (text : List Char) : weight (c::text) = weigh c.toNat + weight text := by
  simp [weight]

@[simp] theorem weight_append (text more : List Char) : weight (text ++ more) = weight text + weight more := by
  simp [weight]

@[simp] theorem unitsWeight_append (units more : List Nat) :
    unitsWeight (units ++ more) = unitsWeight units + unitsWeight more := by
  simp [unitsWeight]

@[simp] theorem unitsWeight_nil : unitsWeight [] = 0 := rfl

theorem weight_suffix {text rest : List Char} (suffix : rest <:+ text) : weight rest ≤ weight text := by
  obtain ⟨front,rfl⟩ := suffix
  simp

theorem weight_skip (text : List Char) : weight (skip text) ≤ weight text := weight_suffix (List.dropWhile_suffix _)

theorem weigh_le (code : Nat) : weigh code ≤ 1 := by
  unfold weigh
  split <;> omega

theorem weigh_special {code : Nat} (special : Special code) : weigh code = 1 := by
  unfold Special at special
  exact if_neg (by omega)

theorem unitWeight_le (unit : Nat) : unitWeight unit ≤ 2 := by
  have most := weigh_le unit
  unfold unitWeight
  split
  · omega
  · split <;> omega

theorem utf16_small {c : Char} (small : c.toNat < 0x10000) : utf16 c = [c.toNat] := if_pos small

theorem unitsWeight_utf16 (c : Char) :
    unitsWeight (utf16 c) = weigh c.toNat + if Special c.toNat then 1 else 0 := by
  have valid : c.toNat < 0xD800 ∨ 0xDFFF < c.toNat ∧ c.toNat < 0x110000 := c.valid
  by_cases small : c.toNat < 0x10000
  · rw [utf16_small small,unitsWeight,List.map_singleton,List.sum_singleton,unitWeight]
    by_cases special : Special c.toNat
    · rw [if_pos special,if_pos special,weigh_special special]
    · rw [if_neg special,if_neg special,if_neg (by omega),Nat.add_zero]
  · obtain ⟨n,code⟩ : ∃ n, c.toNat = n := ⟨_,rfl⟩
    rw [utf16,if_neg small]
    rw [code] at small valid ⊢
    have first : unitWeight (0xD800 + (n - 0x10000) / 0x400) = 1 := by
      rw [unitWeight,if_neg (by unfold Special; omega),if_neg (by omega),weigh,if_neg (by omega)]
    have second : unitWeight (0xDC00 + (n - 0x10000) % 0x400) = 0 := by
      rw [unitWeight,if_neg (by unfold Special; omega),if_pos (by omega)]
    have whole : weigh n = 1 := if_neg (by omega)
    rw [if_neg (by unfold Special; omega),whole]
    simp [unitsWeight,first,second]

theorem expect_eq_some {c : Char} {text rest : List Char} : expect c text = some rest ↔ text = c::rest := by
  unfold expect
  cases text with
  | nil => simp
  | cons d text => simp [eq_comm]

/-! What is read weighs what stands for it at least. -/

/-- What stands before the place where a mode reads on. -/
def Mode.weight : Mode → Nat
  | .plain => 0
  | .escape => 1
  | .hex _ _ => 2

theorem escape_cases {c : Char} {unit : Nat} (known : escape c = some unit) : c ∈ ['"','\\','/','b','f','n','r','t'] := by
  contrapose! known
  simp only [List.mem_cons,List.not_mem_nil,or_false,not_or] at known
  simp [escape,known]

theorem escape_weight {c : Char} {unit : Nat} (known : escape c = some unit) : weigh c.toNat = 1 := by
  have letters := escape_cases known
  simp only [List.mem_cons,List.not_mem_nil,or_false] at letters
  rcases letters with rfl | rfl | rfl | rfl | rfl | rfl | rfl | rfl <;> rfl

theorem plain_weight {c : Char} (quote : c ≠ '"') (backslash : c ≠ '\\') (control : ¬c.toNat < 32) :
    unitsWeight (utf16 c) = weigh c.toNat := by
  have noQuote : c.toNat ≠ 34 := fun same => quote (Char.toNat_inj.mp same)
  have noBackslash : c.toNat ≠ 92 := fun same => backslash (Char.toNat_inj.mp same)
  rw [unitsWeight_utf16,if_neg (by unfold Special; omega),Nat.add_zero]

theorem parseString_weight {mode : Mode} {text rest : List Char} {units : List Nat}
    (read : parseString mode text = some (units,rest)) : unitsWeight units + 1 + weight rest ≤ weight text + mode.weight := by
  induction text generalizing mode units with
  | nil => cases mode <;> cases read
  | cons c text ih =>
    rw [weight_cons]
    cases mode with
    | plain =>
      simp only [parseString] at read
      split at read
      · rename_i quote
        cases read
        have one : weigh c.toNat = 1 := by rw [quote]; rfl
        simp only [unitsWeight_nil,Mode.weight]
        omega
      · split at read
        · rename_i backslash
          have later := ih read
          have one : weigh c.toNat = 1 := by rw [backslash]; rfl
          simp only [Mode.weight] at later ⊢
          omega
        · split at read
          · cases read
          · rename_i quote backslash control
            obtain ⟨⟨others,left⟩,later,same⟩ := Option.map_eq_some_iff.mp read
            cases same
            have inner : unitsWeight others + 1 + weight left ≤ weight text + Mode.plain.weight := ih later
            rw [unitsWeight_append,plain_weight quote backslash control]
            dsimp only
            omega
    | escape =>
      simp only [parseString] at read
      split at read
      · rename_i hex
        have later := ih read
        have one : weigh c.toNat = 1 := by rw [hex]; rfl
        simp only [Mode.weight] at later ⊢
        omega
      · obtain ⟨unit,known,read⟩ := Option.bind_eq_some_iff.mp read
        obtain ⟨⟨others,left⟩,later,same⟩ := Option.map_eq_some_iff.mp read
        cases same
        have inner : unitsWeight others + 1 + weight left ≤ weight text + Mode.plain.weight := ih later
        have one := escape_weight known
        have most : unitsWeight [unit] ≤ 2 := unitWeight_le unit
        rw [unitsWeight_append]
        simp only [Mode.weight] at inner ⊢
        omega
    | hex more value =>
      simp only [parseString] at read
      obtain ⟨digit,_,read⟩ := Option.bind_eq_some_iff.mp read
      split at read
      · obtain ⟨⟨others,left⟩,later,same⟩ := Option.map_eq_some_iff.mp read
        cases same
        have inner : unitsWeight others + 1 + weight left ≤ weight text + Mode.plain.weight := ih later
        have most : unitsWeight [value * 16 + digit] ≤ 2 := unitWeight_le _
        rw [unitsWeight_append]
        simp only [Mode.weight] at inner ⊢
        omega
      · have later := ih read
        simp only [Mode.weight] at later ⊢
        omega

theorem parseDigits_suffix {text rest digits : List Char} (read : parseDigits text = some (digits,rest)) : rest <:+ text := by
  unfold parseDigits at read
  split at read
  · cases read
  · cases read
    exact List.dropWhile_suffix _

theorem parseWhole_suffix {text rest digits : List Char} (read : parseWhole text = some (digits,rest)) : rest <:+ text := by
  obtain ⟨found,digits,read⟩ := Option.bind_eq_some_iff.mp read
  split at read
  · cases read
  · cases read
    exact parseDigits_suffix digits

theorem parseFraction_suffix {text rest digits : List Char} (read : parseFraction text = some (digits,rest)) :
    rest <:+ text := by
  unfold parseFraction at read
  split at read
  · exact (parseDigits_suffix read).trans (List.tail_suffix text)
  · cases read
    exact List.suffix_rfl

theorem parseExponent_suffix {text rest : List Char} {exponent : Int} (read : parseExponent text = some (exponent,rest)) :
    rest <:+ text := by
  have digits (value : List Char → Int) {part : List Char} (inside : part <:+ text)
      (read : (parseDigits part).map (fun read => (value read.1,read.2)) = some (exponent,rest)) : rest <:+ text := by
    obtain ⟨⟨_,_⟩,digits,same⟩ := Option.map_eq_some_iff.mp read
    cases same
    exact (parseDigits_suffix digits).trans inside
  have one : text.tail <:+ text := List.tail_suffix text
  have two : text.tail.tail <:+ text := (List.tail_suffix _).trans one
  unfold parseExponent at read
  split at read
  · split at read
    · exact digits (fun digits => -(decimals digits : Int)) two read
    · split at read
      · exact digits (fun digits => decimals digits) two read
      · exact digits (fun digits => decimals digits) one read
  · cases read
    exact List.suffix_rfl

theorem parseNumber_suffix {text rest : List Char} {value : Value} (read : parseNumber text = some (value,rest)) :
    rest <:+ text ∧ ∃ number, value = .number number := by
  have unsigned {negative : Bool} {part : List Char} (read : parseUnsigned negative part = some (value,rest)) :
      rest <:+ part ∧ ∃ number, value = .number number := by
    obtain ⟨whole,wholeRead,read⟩ := Option.bind_eq_some_iff.mp read
    obtain ⟨fraction,fractionRead,read⟩ := Option.bind_eq_some_iff.mp read
    obtain ⟨exponent,exponentRead,same⟩ := Option.map_eq_some_iff.mp read
    cases same
    exact ⟨(parseExponent_suffix exponentRead).trans
      ((parseFraction_suffix fractionRead).trans (parseWhole_suffix wholeRead)),_,rfl⟩
  unfold parseNumber at read
  split at read
  · exact (unsigned read).imp_left fun inside => inside.trans (List.tail_suffix text)
  · exact unsigned read

theorem word_eq_some {letters text rest : List Char} {value found : Value}
    (read : word letters value text = some (found,rest)) : found = value ∧ text = letters ++ rest := by
  unfold word at read
  split at read
  · rename_i begins
    cases read
    obtain ⟨more,rfl⟩ := List.isPrefixOf_iff_prefix.mp begins
    simp
  · cases read

theorem parseWord_cases {text rest : List Char} {value : Value} (read : parseWord text = some (value,rest)) :
    rest <:+ text ∧ leastWeight value + weight rest ≤ weight text ∧ ∀ fields, value ≠ .object fields := by
  have plain {letters : List Char} {stands : Value} (read : word letters stands text = some (value,rest))
      (least : leastWeight stands = weight letters) (other : ∀ fields, stands ≠ .object fields) :
      rest <:+ text ∧ leastWeight value + weight rest ≤ weight text ∧ ∀ fields, value ≠ .object fields := by
    obtain ⟨rfl,whole⟩ := word_eq_some read
    rw [whole,weight_append,least]
    exact ⟨List.suffix_append _ _,Nat.le_refl _,other⟩
  unfold parseWord at read
  split at read
  · exact plain read rfl (fun _ same => by cases same)
  · split at read
    · exact plain read rfl (fun _ same => by cases same)
    · split at read
      · exact plain read rfl (fun _ same => by cases same)
      · obtain ⟨inside,number,rfl⟩ := parseNumber_suffix read
        have left := weight_suffix inside
        rw [leastWeight,Nat.zero_add]
        exact ⟨inside,left,fun _ same => by cases same⟩

/-! What a call can read. -/

theorem head?_eq_some {c : Char} {text : List Char} : text.head? = some c ↔ text = c::text.tail := by
  cases text with
  | nil => simp
  | cons d text => simp

theorem parseMembers_iff {fuel : Nat} {text rest : List Char} {members : List (List Nat × Value)} :
    parseMembers (fuel + 1) text = some (members,rest) ↔ ∃ opened key afterKey afterColon value afterValue,
      text = '"' :: opened ∧ parseString .plain opened = some (key,afterKey) ∧ skip afterKey = ':' :: afterColon ∧
        parseValue fuel (skip afterColon) = some (value,afterValue) ∧
        (skip afterValue = '}' :: rest ∧ members = [(key,value)] ∨
          ∃ next others, skip afterValue = ',' :: next ∧ parseMembers fuel (skip next) = some (others,rest) ∧
            members = (key,value)::others) := by
  rw [parseMembers]
  constructor
  · intro read
    obtain ⟨opened,quote,read⟩ := Option.bind_eq_some_iff.mp read
    obtain ⟨⟨key,afterKey⟩,keyRead,read⟩ := Option.bind_eq_some_iff.mp read
    obtain ⟨afterColon,colon,read⟩ := Option.bind_eq_some_iff.mp read
    obtain ⟨⟨value,afterValue⟩,valueRead,read⟩ := Option.bind_eq_some_iff.mp read
    refine ⟨opened,key,afterKey,afterColon,value,afterValue,expect_eq_some.mp quote,keyRead,expect_eq_some.mp colon,
      valueRead,?_⟩
    split at read
    · rename_i closed
      cases read
      exact .inl ⟨head?_eq_some.mp closed,rfl⟩
    · obtain ⟨next,comma,read⟩ := Option.bind_eq_some_iff.mp read
      obtain ⟨⟨others,left⟩,later,same⟩ := Option.map_eq_some_iff.mp read
      cases same
      exact .inr ⟨next,others,expect_eq_some.mp comma,later,rfl⟩
  · rintro ⟨opened,key,afterKey,afterColon,value,afterValue,rfl,keyRead,colon,valueRead,
      ⟨closed,rfl⟩ | ⟨next,others,comma,later,rfl⟩⟩
    · simp [expect,keyRead,colon,valueRead,closed]
    · simp [expect,keyRead,colon,valueRead,comma,later]

theorem parseElements_iff {fuel : Nat} {text rest : List Char} {items : List Value} :
    parseElements (fuel + 1) text = some (items,rest) ↔ ∃ value afterValue,
      parseValue fuel text = some (value,afterValue) ∧
        (skip afterValue = ']' :: rest ∧ items = [value] ∨
          ∃ next others, skip afterValue = ',' :: next ∧ parseElements fuel (skip next) = some (others,rest) ∧
            items = value::others) := by
  rw [parseElements]
  constructor
  · intro read
    obtain ⟨⟨value,afterValue⟩,valueRead,read⟩ := Option.bind_eq_some_iff.mp read
    refine ⟨value,afterValue,valueRead,?_⟩
    split at read
    · rename_i closed
      cases read
      exact .inl ⟨head?_eq_some.mp closed,rfl⟩
    · obtain ⟨next,comma,read⟩ := Option.bind_eq_some_iff.mp read
      obtain ⟨⟨others,left⟩,later,same⟩ := Option.map_eq_some_iff.mp read
      cases same
      exact .inr ⟨next,others,expect_eq_some.mp comma,later,rfl⟩
  · rintro ⟨value,afterValue,valueRead,⟨closed,rfl⟩ | ⟨next,others,comma,later,rfl⟩⟩
    · simp [valueRead,closed]
    · simp [valueRead,comma,expect,later]

/-- An object, an array, a string, or one of the others, by the first character. -/
inductive ReadAs (fuel : Nat) (rest : List Char) : List Char → Value → Prop
  | emptyObject {inner} : skip inner = '}' :: rest → ReadAs fuel rest ('{' :: inner) (.object [])
  | object {inner members} : (skip inner).head? ≠ some '}' → parseMembers fuel (skip inner) = some (members,rest) →
    ReadAs fuel rest ('{' :: inner) (.object (lastOfEach members))
  | emptyArray {inner} : skip inner = ']' :: rest → ReadAs fuel rest ('[' :: inner) (.array [])
  | array {inner items} : (skip inner).head? ≠ some ']' → parseElements fuel (skip inner) = some (items,rest) →
    ReadAs fuel rest ('[' :: inner) (.array items)
  | string {inner units} : parseString .plain inner = some (units,rest) → ReadAs fuel rest ('"' :: inner) (.string units)
  | other {text value} : text.head? ≠ some '{' → text.head? ≠ some '[' → text.head? ≠ some '"' →
    parseWord text = some (value,rest) → ReadAs fuel rest text value

theorem parseValue_iff {fuel : Nat} {text rest : List Char} {value : Value} :
    parseValue (fuel + 1) text = some (value,rest) ↔ ReadAs fuel rest text value := by
  rw [parseValue]
  constructor
  · intro read
    split at read
    · rename_i opened
      rw [head?_eq_some.mp opened]
      split at read
      · rename_i closed
        cases read
        exact .emptyObject (head?_eq_some.mp closed)
      · rename_i more
        obtain ⟨⟨members,left⟩,later,same⟩ := Option.map_eq_some_iff.mp read
        cases same
        exact .object more later
    · split at read
      · rename_i opened
        rw [head?_eq_some.mp opened]
        split at read
        · rename_i closed
          cases read
          exact .emptyArray (head?_eq_some.mp closed)
        · rename_i more
          obtain ⟨⟨items,left⟩,later,same⟩ := Option.map_eq_some_iff.mp read
          cases same
          exact .array more later
      · split at read
        · rename_i quote
          obtain ⟨⟨units,left⟩,later,same⟩ := Option.map_eq_some_iff.mp read
          cases same
          rw [head?_eq_some.mp quote]
          exact .string later
        · exact .other ‹_› ‹_› ‹_› read
  · intro read
    cases read with
    | emptyObject closed => simp [closed]
    | object more later => simp [more,later]
    | emptyArray closed => simp [closed]
    | array more later => simp [more,later]
    | string later => simp [later]
    | other brace bracket quote later => rw [if_neg brace,if_neg bracket,if_neg quote,later]

/-! What is read is no longer than its text, and weighs no more. -/

theorem skip_length (text : List Char) : (skip text).length ≤ text.length := (List.dropWhile_suffix _).length_le

theorem parseString_length {mode : Mode} {text rest : List Char} {units : List Nat}
    (read : parseString mode text = some (units,rest)) : rest.length < text.length := by
  induction text generalizing mode units with
  | nil => cases mode <;> cases read
  | cons c text ih =>
    rw [List.length_cons]
    refine Nat.lt_succ_of_le ?_
    cases mode with
    | plain =>
      simp only [parseString] at read
      split at read
      · cases read
        exact Nat.le_refl _
      · split at read
        · exact Nat.le_of_lt (ih read)
        · split at read
          · cases read
          · obtain ⟨⟨_,_⟩,later,same⟩ := Option.map_eq_some_iff.mp read
            cases same
            exact Nat.le_of_lt (ih later)
    | escape =>
      simp only [parseString] at read
      split at read
      · exact Nat.le_of_lt (ih read)
      · obtain ⟨_,_,read⟩ := Option.bind_eq_some_iff.mp read
        obtain ⟨⟨_,_⟩,later,same⟩ := Option.map_eq_some_iff.mp read
        cases same
        exact Nat.le_of_lt (ih later)
    | hex more value =>
      simp only [parseString] at read
      obtain ⟨_,_,read⟩ := Option.bind_eq_some_iff.mp read
      split at read
      · obtain ⟨⟨_,_⟩,later,same⟩ := Option.map_eq_some_iff.mp read
        cases same
        exact Nat.le_of_lt (ih later)
      · exact Nat.le_of_lt (ih read)

structure Bounds (fuel : Nat) : Prop where
  value : ∀ {text rest value}, parseValue fuel text = some (value,rest) →
    rest.length ≤ text.length ∧ leastWeight value + weight rest ≤ weight text
  members : ∀ {text rest members}, parseMembers fuel text = some (members,rest) →
    rest.length ≤ text.length ∧ membersWeight members + weight rest ≤ weight text
  elements : ∀ {text rest items}, parseElements fuel text = some (items,rest) →
    rest.length ≤ text.length ∧ weight rest ≤ weight text

theorem skip_cons {text rest : List Char} {c : Char} (skipped : skip text = c::rest) :
    rest.length + 1 ≤ text.length ∧ weigh c.toNat + weight rest ≤ weight text := by
  have length := skip_length text
  have blanks := weight_skip text
  rw [skipped] at length blanks
  exact ⟨length,by rwa [weight_cons] at blanks⟩

section
variable {fuel : Nat} {text rest : List Char}

theorem value_bounds {value : Value} (ih : Bounds fuel) (read : ReadAs fuel rest text value) :
    rest.length ≤ text.length ∧ leastWeight value + weight rest ≤ weight text := by
  cases read with
  | emptyObject closed =>
    obtain ⟨length,heavy⟩ := skip_cons closed
    simp only [List.length_cons,weight_cons,leastWeight]
    omega
  | @object inner members _ later =>
    obtain ⟨length,heavy⟩ := ih.members later
    have blanks := skip_length inner
    have lighter := weight_skip inner
    simp only [List.length_cons,weight_cons,leastWeight]
    omega
  | emptyArray closed =>
    obtain ⟨length,heavy⟩ := skip_cons closed
    simp only [List.length_cons,weight_cons,leastWeight]
    omega
  | @array inner items _ later =>
    obtain ⟨length,heavy⟩ := ih.elements later
    have blanks := skip_length inner
    have lighter := weight_skip inner
    simp only [List.length_cons,weight_cons,leastWeight]
    omega
  | @string inner units later =>
    have length := parseString_length later
    have heavy := parseString_weight later
    have quote : weigh '"'.toNat = 1 := rfl
    simp only [List.length_cons,weight_cons,leastWeight,quote,Mode.weight] at heavy ⊢
    omega
  | other _ _ _ later =>
    obtain ⟨inside,heavy,_⟩ := parseWord_cases later
    exact ⟨inside.length_le,heavy⟩

theorem members_bounds {members : List (List Nat × Value)} (ih : Bounds fuel)
    (read : parseMembers (fuel + 1) text = some (members,rest)) :
    rest.length ≤ text.length ∧ membersWeight members + weight rest ≤ weight text := by
  obtain ⟨opened,key,afterKey,afterColon,value,afterValue,rfl,keyRead,colon,valueRead,ends⟩ := parseMembers_iff.mp read
  have quote : weigh '"'.toNat = 1 := rfl
  have separator : weigh ':'.toNat = 1 ∧ weigh ','.toNat = 1 ∧ weigh '}'.toNat = 1 := ⟨rfl,rfl,rfl⟩
  have keyLength := parseString_length keyRead
  have keyWeight := parseString_weight keyRead
  obtain ⟨colonLength,colonWeight⟩ := skip_cons colon
  obtain ⟨valueLength,valueWeight⟩ := ih.value valueRead
  have blanks := skip_length afterColon
  have lighter := weight_skip afterColon
  simp only [Mode.weight] at keyWeight
  simp only [List.length_cons,weight_cons,quote]
  rcases ends with ⟨closed,rfl⟩ | ⟨next,others,comma,later,rfl⟩
  · obtain ⟨closedLength,closedWeight⟩ := skip_cons closed
    simp only [membersWeight,memberWeight,List.map_cons,List.map_nil,List.sum_cons,List.sum_nil]
    omega
  · obtain ⟨commaLength,commaWeight⟩ := skip_cons comma
    obtain ⟨othersLength,othersWeight⟩ := ih.members later
    have nextBlanks := skip_length next
    have nextLighter := weight_skip next
    simp only [membersWeight,memberWeight,List.map_cons,List.sum_cons] at othersWeight ⊢
    omega

theorem elements_bounds {items : List Value} (ih : Bounds fuel)
    (read : parseElements (fuel + 1) text = some (items,rest)) :
    rest.length ≤ text.length ∧ weight rest ≤ weight text := by
  obtain ⟨value,afterValue,valueRead,ends⟩ := parseElements_iff.mp read
  obtain ⟨valueLength,valueWeight⟩ := ih.value valueRead
  rcases ends with ⟨closed,rfl⟩ | ⟨next,others,comma,later,rfl⟩
  · obtain ⟨closedLength,closedWeight⟩ := skip_cons closed
    omega
  · obtain ⟨commaLength,commaWeight⟩ := skip_cons comma
    obtain ⟨othersLength,othersWeight⟩ := ih.elements later
    have nextBlanks := skip_length next
    have nextLighter := weight_skip next
    omega

end

theorem bounds (fuel : Nat) : Bounds fuel := by
  induction fuel with
  | zero =>
    constructor
    · intro text rest value read
      simp [parseValue] at read
    · intro text rest members read
      simp [parseMembers] at read
    · intro text rest items read
      simp [parseElements] at read
  | succ fuel ih =>
    constructor
    · intro text rest value read
      exact value_bounds ih (parseValue_iff.mp read)
    · intro text rest members read
      exact members_bounds ih read
    · intro text rest items read
      exact elements_bounds ih read

/-! The fuel is enough: every call with another fuel answers the same. -/

structure Ample (fuel : Nat) : Prop where
  value : ∀ {text rest value more}, parseValue fuel text = some (value,rest) → 2 * text.length + 1 ≤ more →
    parseValue more text = some (value,rest)
  members : ∀ {text rest members more}, parseMembers fuel text = some (members,rest) → 2 * text.length + 2 ≤ more →
    parseMembers more text = some (members,rest)
  elements : ∀ {text rest items more}, parseElements fuel text = some (items,rest) → 2 * text.length + 2 ≤ more →
    parseElements more text = some (items,rest)

theorem ample (fuel : Nat) : Ample fuel := by
  induction fuel with
  | zero =>
    constructor
    · intro text rest value more read
      simp [parseValue] at read
    · intro text rest members more read
      simp [parseMembers] at read
    · intro text rest items more read
      simp [parseElements] at read
  | succ fuel ih =>
    constructor
    · intro text rest value more read enough
      obtain ⟨more,rfl⟩ : ∃ less, more = less + 1 := ⟨more - 1,by omega⟩
      rw [parseValue_iff] at read ⊢
      cases read with
      | emptyObject closed => exact .emptyObject closed
      | @object inner members opened later =>
        have blanks := skip_length inner
        rw [List.length_cons] at enough
        exact .object opened (ih.members later (by omega))
      | emptyArray closed => exact .emptyArray closed
      | @array inner items opened later =>
        have blanks := skip_length inner
        rw [List.length_cons] at enough
        exact .array opened (ih.elements later (by omega))
      | string later => exact .string later
      | other brace bracket quote later => exact .other brace bracket quote later
    · intro text rest members more read enough
      obtain ⟨more,rfl⟩ : ∃ less, more = less + 1 := ⟨more - 1,by omega⟩
      rw [parseMembers_iff] at read ⊢
      obtain ⟨opened,key,afterKey,afterColon,value,afterValue,rfl,keyRead,colon,valueRead,ends⟩ := read
      have keyLength := parseString_length keyRead
      have colonLength := (skip_cons colon).1
      have blanks := skip_length afterColon
      have valueLength := ((bounds fuel).value valueRead).1
      rw [List.length_cons] at enough
      refine ⟨opened,key,afterKey,afterColon,value,afterValue,rfl,keyRead,colon,ih.value valueRead (by omega),?_⟩
      rcases ends with ⟨closed,same⟩ | ⟨next,others,comma,later,same⟩
      · exact .inl ⟨closed,same⟩
      · have commaLength := (skip_cons comma).1
        have nextBlanks := skip_length next
        exact .inr ⟨next,others,comma,ih.members later (by omega),same⟩
    · intro text rest items more read enough
      obtain ⟨more,rfl⟩ : ∃ less, more = less + 1 := ⟨more - 1,by omega⟩
      rw [parseElements_iff] at read ⊢
      obtain ⟨value,afterValue,valueRead,ends⟩ := read
      have valueLength := ((bounds fuel).value valueRead).1
      refine ⟨value,afterValue,ih.value valueRead (by omega),?_⟩
      rcases ends with ⟨closed,same⟩ | ⟨next,others,comma,later,same⟩
      · exact .inl ⟨closed,same⟩
      · have commaLength := (skip_cons comma).1
        have nextBlanks := skip_length next
        exact .inr ⟨next,others,comma,ih.elements later (by omega),same⟩

/-! Objects. -/

theorem membersWeight_setField (key : List Nat) (value : Value) (fields : List (List Nat × Value)) :
    membersWeight (setField key value fields) ≤ membersWeight fields + memberWeight (key,value) := by
  induction fields with
  | nil => simp [setField,membersWeight]
  | cons field fields ih =>
    unfold setField
    split
    · simp only [membersWeight,List.map_cons,List.sum_cons]
      omega
    · simp only [membersWeight,List.map_cons,List.sum_cons] at ih ⊢
      omega

theorem membersWeight_lastOfEach (members : List (List Nat × Value)) :
    membersWeight (lastOfEach members) ≤ membersWeight members := by
  have fold (members fields : List (List Nat × Value)) :
      membersWeight (members.foldl (fun fields member => setField member.1 member.2 fields) fields) ≤
        membersWeight fields + membersWeight members := by
    induction members generalizing fields with
    | nil => simp [membersWeight]
    | cons member members ih =>
      have inner := ih (setField member.1 member.2 fields)
      have first : membersWeight (setField member.1 member.2 fields) ≤ membersWeight fields + memberWeight member :=
        membersWeight_setField member.1 member.2 fields
      simp only [List.foldl_cons,membersWeight,List.map_cons,List.sum_cons] at inner first ⊢
      omega
  have whole := fold members []
  simpa [membersWeight,lastOfEach] using whole

theorem parse_object_weight {text : List Char} {fields : List (List Nat × Value)}
    (read : parse text = some (.object fields)) : membersWeight fields + 1 ≤ weight text := by
  obtain ⟨⟨value,rest⟩,valueRead,same⟩ := Option.bind_eq_some_iff.mp read
  split at same
  · have blanks := weight_skip text
    have brace : weigh '{'.toNat = 1 := rfl
    rw [parseValue_iff] at valueRead
    obtain rfl : value = .object fields := Option.some.inj same
    generalize skip text = whole at valueRead blanks
    cases valueRead with
    | emptyObject closed =>
      have heavy := (skip_cons closed).2
      rw [weight_cons,brace] at blanks
      simp only [membersWeight,List.map_nil,List.sum_nil]
      omega
    | @object inner members _ later =>
      have heavy := ((bounds _).members later).2
      have lighter := weight_skip inner
      have least := membersWeight_lastOfEach members
      rw [weight_cons,brace] at blanks
      omega
    | other _ _ _ later => exact absurd rfl ((parseWord_cases later).2.2 fields)
  · cases same

end BitProtector.Json
