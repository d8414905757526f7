import Cashbook.Money.Amount
import Cashbook.Proofs.Text

/-!
# Currency marks

Currency marks may stand anywhere in an amount.  Without them the text is left that they were put
into, and a text that has none of their characters keeps them apart from what stands around it.
-/

namespace Cashbook.Money

open Text

variable {text bare front behind : List Char} {c : Char}

/-- The characters of currency marks. -/
def currencySigns : List Char :=
  ['r', 'R', '$', '€', '£']

theorem forall_mem_currencySigns {property : Char → Prop} :
    (∀ sign ∈ currencySigns, property sign)
      ↔ property 'r' ∧ property 'R' ∧ property '$' ∧ property '€' ∧ property '£' := by
  simp [currencySigns]

/-- Is a text free of the characters of currency marks? -/
def IsUnmarked (text : List Char) : Prop :=
  ∀ c ∈ text, c ∉ currencySigns

theorem isUnmarked_append_iff :
    IsUnmarked (front ++ behind) ↔ IsUnmarked front ∧ IsUnmarked behind :=
  List.forall_mem_append

/-- Blanks are no currency marks. -/
theorem isUnmarked_of_allBlank (blank : AllBlank text) : IsUnmarked text := by
  intro c member listed
  have shown : ∀ sign ∈ currencySigns, isBlank sign = false :=
    forall_mem_currencySigns.mpr (by decide)
  exact Bool.false_ne_true ((shown c listed).symm.trans (blank c member))

/-! ## Texts without marks -/

theorem dropCurrency_cons_of_not_mem (unmarked : c ∉ currencySigns) :
    dropCurrency (c :: text) = c :: dropCurrency text := by
  simp only [currencySigns, List.mem_cons, List.not_mem_nil, or_false, not_or] at unmarked
  cases text <;> simp [dropCurrency, unmarked]

theorem dropCurrency_cons_of_sign (isSign : c = '$' ∨ c = '€' ∨ c = '£') :
    dropCurrency (c :: text) = dropCurrency text := by
  have no_letter : ¬(c = 'r' ∨ c = 'R') := by
    rcases isSign with rfl | rfl | rfl <;> decide
  cases text <;> simp [dropCurrency, isSign, no_letter]

/-- What has no currency marks is kept in front of a text. -/
theorem dropCurrency_append_left (unmarked : IsUnmarked front) :
    dropCurrency (front ++ text) = front ++ dropCurrency text := by
  induction front with
  | nil => rfl
  | cons c front ih =>
      rw [IsUnmarked, List.forall_mem_cons] at unmarked
      rw [List.cons_append, dropCurrency_cons_of_not_mem unmarked.1, ih unmarked.2,
        List.cons_append]

/-- A text without currency marks is left as it is. -/
theorem dropCurrency_of_isUnmarked (unmarked : IsUnmarked text) : dropCurrency text = text := by
  have kept := @dropCurrency_append_left [] text unmarked
  rwa [dropCurrency, List.append_nil] at kept

/-- It is kept behind a text as well, where no mark goes on in it. -/
theorem dropCurrency_append_right (unmarked : IsUnmarked behind) :
    dropCurrency (text ++ behind) = dropCurrency text ++ behind := by
  have kept := dropCurrency_of_isUnmarked unmarked
  induction text using dropCurrency.induct with
  | case1 => exact kept
  | case2 c isSign =>
      rw [List.singleton_append, dropCurrency_cons_of_sign isSign, kept, dropCurrency,
        if_pos isSign, List.nil_append]
  | case3 c no_sign =>
      rw [dropCurrency, if_neg no_sign, List.singleton_append]
      cases behind with
      | nil => rw [dropCurrency, if_neg no_sign]
      | cons next rest =>
          have no_dollar : next ≠ '$' := by
            rintro rfl
            exact unmarked '$' List.mem_cons_self (by decide)
          rw [dropCurrency, if_neg fun mark => no_dollar mark.2, if_neg no_sign, kept]
  | case4 c next rest mark ih =>
      simp only [List.cons_append, dropCurrency, if_pos mark, ih]
  | case5 c next rest no_mark isSign ih =>
      rw [List.cons_append] at ih
      simp only [List.cons_append, dropCurrency, if_neg no_mark, if_pos isSign, ih]
  | case6 c next rest no_mark no_sign ih =>
      rw [List.cons_append] at ih
      simp only [List.cons_append, dropCurrency, if_neg no_mark, if_neg no_sign, ih]

/-- Blanks around a text and currency marks in it are taken away in either order. -/
theorem trim_dropCurrency_trim (text : List Char) :
    trim (dropCurrency (trim text)) = trim (dropCurrency text) := by
  rcases exists_eq_trim text with ⟨-, before, after, blank_before, blank_after, text_eq⟩
  generalize trim text = middle at *
  rw [text_eq, dropCurrency_append_right (isUnmarked_of_allBlank blank_after),
    dropCurrency_append_left (isUnmarked_of_allBlank blank_before), trim_append_right blank_after,
    trim_append_left blank_before]

/-! ## Texts with marks -/

/-- Is a text another one with currency marks put in: `R$` in either case, and the dollar, euro and
pound signs? -/
inductive IsMarked : List Char → List Char → Prop
  | nil : IsMarked [] []
  | keep {text bare : List Char} (c : Char) (rest : IsMarked text bare) :
      IsMarked (c :: text) (c :: bare)
  | real {text bare : List Char} {letter : Char} (isLetter : letter = 'r' ∨ letter = 'R')
      (rest : IsMarked text bare) : IsMarked (letter :: '$' :: text) bare
  | sign {text bare : List Char} {c : Char} (isSign : c = '$' ∨ c = '€' ∨ c = '£')
      (rest : IsMarked text bare) : IsMarked (c :: text) bare

/-- A text without its currency marks is the text that they were put into. -/
theorem dropCurrency_eq_iff (unmarked : IsUnmarked bare) :
    dropCurrency text = bare ↔ IsMarked text bare := by
  constructor
  · rintro rfl
    clear unmarked
    induction text using dropCurrency.induct with
    | case1 => exact .nil
    | case2 c isSign =>
        rw [dropCurrency, if_pos isSign]
        exact .sign isSign .nil
    | case3 c no_sign =>
        rw [dropCurrency, if_neg no_sign]
        exact .keep c .nil
    | case4 c next rest mark ih =>
        rw [dropCurrency, if_pos mark, mark.2]
        exact .real mark.1 ih
    | case5 c next rest no_mark isSign ih =>
        rw [dropCurrency, if_neg no_mark, if_pos isSign]
        exact .sign isSign ih
    | case6 c next rest no_mark no_sign ih =>
        rw [dropCurrency, if_neg no_mark, if_neg no_sign]
        exact .keep c ih
  · intro marked
    induction marked with
    | nil => rfl
    | keep c rest ih =>
        rw [IsUnmarked, List.forall_mem_cons] at unmarked
        rw [dropCurrency_cons_of_not_mem unmarked.1, ih unmarked.2]
    | real isLetter rest ih =>
        rw [dropCurrency, if_pos ⟨isLetter, rfl⟩, ih unmarked]
    | sign isSign rest ih => rw [dropCurrency_cons_of_sign isSign, ih unmarked]

end Cashbook.Money
