import Cashbook.Chat.Complaint
import Cashbook.Wording
import Mathlib.Data.List.Infix

/-!
# What replies begin with

Confirmations begin with a mark of their own.  No other reply begins with it, whatever names and
amounts stand in it.
-/

namespace Cashbook.Wording

/-- Does a text begin with the mark of a confirmation? -/
def IsMarked (text : String) : Prop :=
  confirmationMark.toList <+: text.toList

instance (text : String) : Decidable (IsMarked text) :=
  inferInstanceAs (Decidable (_ <+: _))

theorem isMarked_iff {text : String} : IsMarked text ↔ text.toList.head? = some '✅' := by
  unfold IsMarked
  rw [show confirmationMark.toList = ['✅'] by decide]
  cases text.toList with
  | nil => simp
  | cons first rest => simp [List.cons_prefix_cons, eq_comm]

/-- Only the first character of a text matters. -/
theorem not_isMarked_ofList_cons {first : Char} {rest : List Char} (other : first ≠ '✅') :
    ¬IsMarked (String.ofList (first :: rest)) := by
  rw [isMarked_iff, String.toList_ofList]
  simpa using other

/-- What stands behind the first part of a text does not matter. -/
theorem isMarked_append_iff {first rest : String} (something : first.toList ≠ []) :
    IsMarked (first ++ rest) ↔ IsMarked first := by
  rw [isMarked_iff, isMarked_iff, String.toList_append, List.head?_append]
  cases letters : first.toList with
  | nil => exact absurd letters something
  | cons letter letters => rfl

/-- Only the first line of a text matters. -/
theorem isMarked_intercalate_iff {separator first : String} {rest : List String}
    (something : first.toList ≠ []) :
    IsMarked (separator.intercalate (first :: rest)) ↔ IsMarked first := by
  cases rest with
  | nil => rw [String.intercalate_singleton]
  | cons second rest =>
      rw [String.intercalate_cons_of_ne_nil (List.cons_ne_nil second rest), String.append_assoc,
        isMarked_append_iff something]

/-! ## Confirmations -/

/-- A text that begins with the mark is marked. -/
theorem isMarked_confirmationMark_append (rest : String) : IsMarked (confirmationMark ++ rest) :=
  (isMarked_append_iff (by decide)).mpr (by decide)

theorem isMarked_headline (kind : EntryKind) (amount : Decimal) (installments : Int) :
    IsMarked (headline kind amount installments) := by
  unfold headline
  split_ifs
  · simp only [String.append_assoc]
    exact isMarked_confirmationMark_append _
  · simp only [String.append_assoc]
    exact isMarked_confirmationMark_append _

theorem isMarked_entryConfirmation (kind : EntryKind) (amount : Decimal) (description : String)
    (category : Option String) (account : String) (installments : Int) :
    IsMarked (entryConfirmation kind amount description category account installments) := by
  have marked := isMarked_headline kind amount installments
  apply (isMarked_intercalate_iff ?_).mpr marked
  intro nothing
  rw [isMarked_iff, nothing] at marked
  cases marked

/-! ## Other replies -/

theorem not_isMarked_help : ¬IsMarked help := by
  unfold help helpLines
  rw [isMarked_intercalate_iff (by decide)]
  exact not_isMarked_ofList_cons (by decide)

theorem not_isMarked_complaint (complaint : Chat.Complaint) : ¬IsMarked complaint.message := by
  cases complaint <;> exact not_isMarked_ofList_cons (by decide)

theorem not_isMarked_balanceSummary {accounts : List (String × Decimal)} {text : String}
    (run : balanceSummary accounts = .ok text) : ¬IsMarked text := by
  unfold balanceSummary at run
  split_ifs at run
  · obtain rfl : noAccounts = text := Except.ok.inj run
    exact not_isMarked_ofList_cons (by decide)
  · cases total : Decimal.sum (accounts.map Prod.snd) with
    | error error => simp [total, bind, Except.bind] at run
    | ok sum =>
        simp only [total, bind, Except.bind, pure, Except.pure, Except.ok.injEq] at run
        rw [← run, List.cons_append, List.cons_append, isMarked_intercalate_iff (by decide)]
        exact not_isMarked_ofList_cons (by decide)

theorem not_isMarked_monthlyReport {income expenses : Decimal} {text : String}
    (run : monthlyReport income expenses = .ok text) : ¬IsMarked text := by
  unfold monthlyReport at run
  cases left : income.sub expenses with
  | error error => simp [left, bind, Except.bind] at run
  | ok net =>
      cases sign : net.isNotNegative with
      | error error => simp [left, sign, bind, Except.bind] at run
      | ok above =>
          simp only [left, sign, bind, Except.bind, pure, Except.pure, Except.ok.injEq] at run
          rw [← run]
          simp only [String.append_assoc]
          rw [isMarked_append_iff (by decide)]
          exact not_isMarked_ofList_cons (by decide)

theorem not_isMarked_of_refusal {failure : Failure} (refused : failure.family = .refusal) :
    ¬IsMarked failure.message := by
  cases failure with
  | amountNotPositive | amountBelowCent | installmentCount | noAccount | sameAccount
  | accountsNotOwned => exact not_isMarked_ofList_cons (by decide)
  | accountMissing id =>
      change ¬IsMarked ("Account " ++ Failure.numberText id ++ " not found")
      rw [String.append_assoc, isMarked_append_iff (by decide)]
      exact not_isMarked_ofList_cons (by decide)
  | cardMissing id =>
      change ¬IsMarked ("Card " ++ Failure.numberText id ++ " not found")
      rw [String.append_assoc, isMarked_append_iff (by decide)]
      exact not_isMarked_ofList_cons (by decide)
  | insufficientFunds account =>
      cases account with
      | none => exact not_isMarked_ofList_cons (by decide)
      | some name =>
          change ¬IsMarked (if name = "" then "Saldo insuficiente na conta de origem"
            else "Saldo insuficiente na conta de origem (" ++ name ++ ")")
          split_ifs
          · exact not_isMarked_ofList_cons (by decide)
          · rw [String.append_assoc, isMarked_append_iff (by decide)]
            exact not_isMarked_ofList_cons (by decide)
  | _ => cases refused

theorem not_isMarked_failure (failure : Failure) : ¬IsMarked (Wording.failure failure) := by
  unfold Wording.failure
  cases family : failure.family with
  | refusal => exact not_isMarked_of_refusal family
  | storage => exact not_isMarked_ofList_cons (by decide)
  | installments => exact not_isMarked_ofList_cons (by decide)
  | internal => exact not_isMarked_ofList_cons (by decide)

end Cashbook.Wording
