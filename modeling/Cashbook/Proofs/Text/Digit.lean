import Cashbook.Text.Blank
import Cashbook.Text.Digit
import Mathlib.Data.List.TakeWhile

/-!
# Runs of digits

A digit of any script is worth less than ten and is neither a blank nor a mark.  A run of digits
ends where something else follows.
-/

namespace Cashbook.Text

variable {c other : Char} {digits rest left right : List Char}

/-- A digit is worth less than ten. -/
theorem digitValue?_lt {value : Nat} (worth : digitValue? c = some value) : value < 10 := by
  unfold digitValue? at worth
  dsimp only at worth
  split_ifs at worth with plain range
  · cases worth
    omega
  · rw [Option.map_eq_some_iff] at worth
    rcases worth with ⟨start, found, rfl⟩
    have near := List.find?_some found
    simp only [Bool.and_eq_true, decide_eq_true_eq] at near
    omega

/-- The plain digits are worth what their places in the character set say. -/
theorem digitValue?_of_plain (plain : c.isDigit = true) :
    digitValue? c = some (c.toNat - 48) := by
  obtain ⟨low, high⟩ := Char.isDigit_iff_toNat.mp plain
  change 48 ≤ c.toNat at low
  change c.toNat ≤ 57 at high
  have ascii : c.toNat < 0x80 := by omega
  unfold digitValue?
  dsimp only
  rw [if_pos ascii, if_pos ⟨low, high⟩]

theorem isDigit_of_plain (plain : c.isDigit = true) : isDigit c = true := by
  rw [isDigit, digitValue?_of_plain plain]
  rfl

theorem ne_of_isDigit (digit : isDigit c = true) (mark : isDigit other = false) : c ≠ other := by
  rintro rfl
  exact Bool.false_ne_true (mark.symm.trans digit)

/-- A digit has no other letter case. -/
theorem toLower_of_isDigit (digit : isDigit c = true) : c.toLower = c := by
  unfold Char.toLower
  rw [dif_neg]
  rintro ⟨above, below⟩
  rw [ge_iff_le, UInt32.le_iff_toNat_le] at above
  rw [UInt32.le_iff_toNat_le] at below
  change 0x41 ≤ c.toNat at above
  change c.toNat ≤ 0x5a at below
  have ascii : c.toNat < 0x80 := by omega
  have letter : ¬(0x30 ≤ c.toNat ∧ c.toNat ≤ 0x39) := by omega
  unfold isDigit digitValue? at digit
  dsimp only at digit
  rw [if_pos ascii, if_neg letter] at digit
  exact Bool.false_ne_true digit

/-- The places of all blanks in the character set. -/
def blankPlaces : List Nat :=
  [0x09, 0x0a, 0x0b, 0x0c, 0x0d, 0x1c, 0x1d, 0x1e, 0x1f, 0x20, 0x85, 0xa0, 0x1680, 0x2000, 0x2001,
    0x2002, 0x2003, 0x2004, 0x2005, 0x2006, 0x2007, 0x2008, 0x2009, 0x200a, 0x2028, 0x2029, 0x202f,
    0x205f, 0x3000]

theorem mem_blankPlaces (blank : isBlank c = true) : c.toNat ∈ blankPlaces := by
  simp only [isBlank, isWhiteSpace, Bool.or_eq_true, Bool.and_eq_true, decide_eq_true_eq,
    beq_iff_eq] at blank
  simp only [blankPlaces, List.mem_cons, List.not_mem_nil, or_false]
  omega

/-- A digit is no blank. -/
theorem isBlank_of_isDigit (digit : isDigit c = true) : isBlank c = false := by
  have none_digit : ∀ place ∈ blankPlaces, isDigit (Char.ofNat place) = false := by
    decide +kernel
  by_contra blank
  have mark := none_digit _ (mem_blankPlaces (Bool.not_eq_false _ ▸ blank))
  rw [Char.ofNat_toNat] at mark
  exact Bool.false_ne_true (mark.symm.trans digit)

/-! ## Runs -/

/-- Is a text nothing but digits? -/
def AllDigits (text : List Char) : Prop :=
  ∀ c ∈ text, isDigit c = true

instance (text : List Char) : Decidable (AllDigits text) :=
  decidable_of_iff (text.all isDigit) List.all_eq_true

/-- Is a text free of digits? -/
def IsDigitless (text : List Char) : Prop :=
  ∀ c ∈ text, isDigit c = false

instance (text : List Char) : Decidable (IsDigitless text) :=
  decidable_of_iff (text.all fun c => !isDigit c) (by simp [IsDigitless])

theorem isDigitless_cons_iff : IsDigitless (c :: rest) ↔ isDigit c = false ∧ IsDigitless rest :=
  List.forall_mem_cons

theorem isDigitless_append_iff :
    IsDigitless (left ++ right) ↔ IsDigitless left ∧ IsDigitless right :=
  List.forall_mem_append

theorem allDigits_append_iff : AllDigits (left ++ right) ↔ AllDigits left ∧ AllDigits right :=
  List.forall_mem_append

theorem AllDigits.not_mem (all : AllDigits digits) (mark : isDigit other = false) :
    other ∉ digits :=
  fun member => ne_of_isDigit (all other member) mark rfl

/-- A run of digits stays when marks are left out. -/
theorem AllDigits.filter_ne (all : AllDigits digits) (mark : isDigit other = false) :
    digits.filter (· ≠ other) = digits := by
  rw [List.filter_eq_self]
  exact fun c member => decide_eq_true (ne_of_isDigit (all c member) mark)

/-- The numeral of a number is a run of digits. -/
theorem allDigits_toDigits (number : Nat) : AllDigits (Nat.toDigits 10 number) :=
  fun _ member => isDigit_of_plain (Nat.isDigit_of_mem_toDigits (by decide) le_rfl member)

/-- A run of digits is taken up to where something else follows. -/
theorem AllDigits.takeWhile_append (all : AllDigits digits)
    (ends : ∀ c ∈ rest.head?, isDigit c = false) :
    (digits ++ rest).takeWhile isDigit = digits := by
  rw [List.takeWhile_append_of_pos all]
  cases rest with
  | nil => simp
  | cons c rest => simp [ends c rfl]

theorem AllDigits.dropWhile_append (all : AllDigits digits)
    (ends : ∀ c ∈ rest.head?, isDigit c = false) :
    (digits ++ rest).dropWhile isDigit = rest := by
  rw [List.dropWhile_append_of_pos all]
  cases rest with
  | nil => simp
  | cons c rest => simp [ends c rfl]

theorem AllDigits.takeWhile_eq (all : AllDigits digits) : digits.takeWhile isDigit = digits :=
  List.takeWhile_eq_self_iff.mpr all

theorem AllDigits.dropWhile_eq (all : AllDigits digits) : digits.dropWhile isDigit = [] :=
  List.dropWhile_eq_nil_iff.mpr all

end Cashbook.Text
