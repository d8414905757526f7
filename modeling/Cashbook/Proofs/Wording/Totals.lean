import Cashbook.Proofs.Decimal.Sums
import Cashbook.Proofs.Money.Rendering
import Cashbook.Wording

/-!
# Amounts in replies

Amounts of whole cents are shown as they are.  So the balances that a reply lists add up to the
total that it shows, however many they are and whatever their signs, and what a monthly report shows
as left is what it shows as income without what it shows as expenses.
-/

namespace Cashbook

open Money

variable {number income expenses : Decimal} {cents otherCents : Int} {text : String}
  {value other : ℚ} {accounts : List (String × Decimal)}

/-! ## Amounts as they are shown -/

/-- Does a text show an amount to whoever reads it? -/
def Money.Shows (text : String) (value : ℚ) : Prop :=
  ∃ read, readAmount text.toList = .ok read ∧ read.value = value

/-- A text shows one amount only. -/
theorem Money.Shows.unique (shows_value : Shows text value) (shows_other : Shows text other) :
    value = other := by
  obtain ⟨read, read_eq, rfl⟩ := shows_value
  obtain ⟨again, again_eq, rfl⟩ := shows_other
  obtain rfl : read = again := Except.ok.inj (read_eq.symm.trans again_eq)
  rfl

/-- An amount of whole cents is shown as it is. -/
theorem Money.shows_inReais (counted : number.IsCents cents) (small : |number.value| < 10 ^ 26) :
    Shows (inReais number) number.value := by
  obtain ⟨read, read_cents, read_eq, read_counted, nearest⟩ :=
    exists_readAmount_inReais counted.1 small
  have exact : 100 * number.value = cents := by
    rw [(Decimal.isCents_iff.mp counted).2]
    ring
  rw [exact] at nearest
  refine ⟨read, read_eq, ?_⟩
  rw [read_counted.2, counted.2, nearest.unique (isNearestEven_intCast cents)]

namespace Wording

/-! ## Balances -/

/-- The line of an account, with the amount as it is written. -/
def balanceLine (name amount : String) : String :=
  "🏦 " ++ name ++ ": " ++ amount

/-- The list of balances with its total, with all amounts as they are written. -/
def balanceList (lines : List String) (total : String) : String :=
  "\n".intercalate (["💰 *Saldo das Contas:*", ""] ++ lines ++ ["", "💎 *Total:* " ++ total])

/-- Accounts are listed with their amounts and the sum of these. -/
theorem balanceSummary_eq {total : Decimal} (some_account : accounts ≠ [])
    (summed : Decimal.sum (accounts.map Prod.snd) = .ok total) :
    balanceSummary accounts = .ok (balanceList
      (List.zipWith balanceLine (accounts.map Prod.fst)
        ((accounts.map Prod.snd).map inReais)) (inReais total)) := by
  have listed : accounts.isEmpty = false := List.isEmpty_eq_false_iff.mpr some_account
  unfold balanceSummary
  rw [listed, summed, List.map_map, List.zipWith_map, List.zipWith_self]
  rfl

/-- The balances that a list shows add up to the total that it shows, if they are of whole cents. -/
theorem exists_balanceSummary_eq (some_account : accounts ≠ [])
    (counted : ∀ account ∈ accounts, ∃ cents, account.2.IsCents cents)
    (small : Decimal.totalSize (accounts.map Prod.snd) < 10 ^ 26) :
    ∃ amounts total, balanceSummary accounts = .ok (balanceList
        (List.zipWith balanceLine (accounts.map Prod.fst) amounts) total)
      ∧ List.Forall₂ Shows amounts (accounts.map fun account => account.2.value)
      ∧ Shows total (accounts.map fun account => account.2.value).sum := by
  have all_counted : ∀ balance ∈ accounts.map Prod.snd, ∃ cents, balance.IsCents cents :=
    List.forall_mem_map.mpr counted
  obtain ⟨total, summed, ⟨cents, total_counted⟩, total_value⟩ :=
    Decimal.exists_sum_eq all_counted small (by decide) (by decide)
  rw [List.map_map] at total_value
  refine ⟨_, _, balanceSummary_eq some_account summed, ?_, ?_⟩
  · rw [List.map_map, List.forall₂_map_left_iff, List.forall₂_map_right_iff, List.forall₂_same]
    intro account member
    obtain ⟨cents, account_counted⟩ := counted account member
    exact shows_inReais account_counted
      ((Decimal.abs_value_le_totalSize (List.mem_map_of_mem member)).trans_lt small)
  · have total_small : |total.value| < 10 ^ 26 := by
      have le := Decimal.abs_sum_value_le (accounts.map Prod.snd)
      rw [List.map_map, ← total_value] at le
      exact le.trans_lt small
    exact total_value ▸ shows_inReais total_counted total_small

/-! ## The monthly report -/

/-- The report with all amounts as they are written. -/
def reportText (income expenses marker net : String) : String :=
  "📊 *Relatório do Mês*\n\n💚 Receitas: " ++ income ++ "\n❌ Despesas: " ++ expenses ++ "\n"
    ++ marker ++ " Saldo: " ++ net

/-- The mark of a month in which more was spent than earned. -/
def deficitMark : String :=
  "⚠️"

/-- The report shows what is left, marked by whether it is below zero. -/
theorem monthlyReport_eq {net : Decimal} (left : income.sub expenses = .ok net)
    (finite : net.isFinite = true) :
    monthlyReport income expenses = .ok (reportText (inReais income) (inReais expenses)
      (if 0 ≤ net.value then confirmationMark else deficitMark) (inReais net)) := by
  unfold monthlyReport
  rw [left]
  change (do
    let marker := if ← net.isNotNegative then confirmationMark else "⚠️"
    return _ : Except Decimal.ArithmeticError String) = _
  rw [Decimal.isNotNegative_of_isFinite finite]
  by_cases above : 0 ≤ net.value
  · simp only [above, decide_true, if_true]
    rfl
  · simp only [above, decide_false, if_false]
    rfl

/-- What a report shows as left is what it shows as income without what it shows as expenses. -/
theorem exists_monthlyReport_eq (earned : income.IsCents cents)
    (spent : expenses.IsCents otherCents)
    (income_nonneg : 0 ≤ income.value) (income_small : income.value < 10 ^ 26)
    (expenses_nonneg : 0 ≤ expenses.value) (expenses_small : expenses.value < 10 ^ 26) :
    ∃ shownIncome shownExpenses net,
      monthlyReport income expenses = .ok (reportText shownIncome shownExpenses
        (if 0 ≤ income.value - expenses.value then confirmationMark else deficitMark) net)
      ∧ Shows shownIncome income.value ∧ Shows shownExpenses expenses.value
      ∧ Shows net (income.value - expenses.value) := by
  have income_abs : |income.value| < 10 ^ 26 := by rwa [abs_of_nonneg income_nonneg]
  have expenses_abs : |expenses.value| < 10 ^ 26 := by rwa [abs_of_nonneg expenses_nonneg]
  have net_abs : |income.value - expenses.value| < 10 ^ 26 :=
    abs_sub_lt_of_nonneg_of_lt income_nonneg income_small expenses_nonneg expenses_small
  have difference : ((cents - otherCents : Int) : ℚ) * 10 ^ (-2 : Int)
      = income.value - expenses.value := by
    rw [earned.2, spent.2]
    push_cast
    ring
  have spent_few : (-otherCents).natAbs < 10 ^ Decimal.working.digits := by
    rw [Int.natAbs_neg]
    exact spent.natAbs_lt expenses_abs
  have net_few : (cents - otherCents).natAbs < 10 ^ Decimal.working.digits :=
    Decimal.natAbs_lt_of_abs_mul_lt (difference ▸ net_abs)
  obtain ⟨net, net_eq, net_counted⟩ := Decimal.exists_add_eq_of_isCents earned spent.turned
    (earned.natAbs_lt income_abs) spent_few net_few
  have net_value : net.value = income.value - expenses.value := net_counted.2.trans difference
  refine ⟨_, _, _, ?_, shows_inReais earned income_abs, shows_inReais spent expenses_abs,
    net_value ▸ shows_inReais net_counted (net_value ▸ net_abs)⟩
  rw [← net_value]
  exact monthlyReport_eq net_eq net_counted.1

/-- Replies add up.  The balances that a list of accounts shows are those of the accounts, in their
order, and the total that it shows is their sum.  A monthly report shows as left what it shows as
income without what it shows as expenses, with the mark of a confirmation exactly where that is not
below zero.  All amounts are of whole cents, as those are that are read from a ledger, and together
below the bound from which sums are rounded. -/
theorem shown_amounts_add_up :
    balanceSummary [] = .ok noAccounts
    ∧ (∀ accounts : List (String × Decimal), accounts ≠ [] →
        (∀ account ∈ accounts, ∃ cents, account.2.IsCents cents) →
        Decimal.totalSize (accounts.map Prod.snd) < 10 ^ 26 →
        ∃ amounts balances total,
          balanceSummary accounts = .ok (balanceList
            (List.zipWith balanceLine (accounts.map Prod.fst) amounts) total)
          ∧ balances = (accounts.map fun account => account.2.value)
          ∧ List.Forall₂ Shows amounts balances ∧ Shows total balances.sum)
    ∧ ∀ income expenses : Decimal,
        (∃ cents, income.IsCents cents) → 0 ≤ income.value → income.value < 10 ^ 26 →
        (∃ cents, expenses.IsCents cents) → 0 ≤ expenses.value → expenses.value < 10 ^ 26 →
        ∃ shownIncome shownExpenses marker net earned spent,
          monthlyReport income expenses
            = .ok (reportText shownIncome shownExpenses marker net)
          ∧ earned = income.value ∧ spent = expenses.value
          ∧ Shows shownIncome earned ∧ Shows shownExpenses spent ∧ Shows net (earned - spent)
          ∧ (marker = confirmationMark ↔ 0 ≤ earned - spent)
          ∧ (marker = deficitMark ↔ earned - spent < 0) := by
  refine ⟨rfl, ?_, ?_⟩
  · intro accounts some_account counted small
    rcases exists_balanceSummary_eq some_account counted small with
      ⟨amounts, total, summary, shown, total_shown⟩
    exact ⟨amounts, _, total, summary, rfl, shown, total_shown⟩
  · rintro income expenses ⟨cents, earned⟩ income_nonneg income_small ⟨otherCents, spent⟩
      expenses_nonneg expenses_small
    rcases exists_monthlyReport_eq earned spent income_nonneg income_small expenses_nonneg
      expenses_small with ⟨shownIncome, shownExpenses, net, report, income_shown, expenses_shown,
        net_shown⟩
    refine ⟨shownIncome, shownExpenses, _, net, _, _, report, rfl, rfl, income_shown,
      expenses_shown, net_shown, ?_⟩
    have apart : confirmationMark ≠ deficitMark := by decide
    by_cases above : 0 ≤ income.value - expenses.value
    · rw [if_pos above]
      exact ⟨iff_of_true rfl above, iff_of_false apart above.not_gt⟩
    · rw [if_neg above]
      exact ⟨iff_of_false apart.symm above, iff_of_true rfl (not_le.mp above)⟩

/-- Balances as they are read from a ledger: a debt below half a cent, a fortune and a debt. -/
def unequalBalances : List (String × Decimal) :=
  [("Carteira", .ofCents true 0), ("Cofre", .ofCents false (10 ^ 27 + 1)),
    ("Emprestado", .ofCents true 1000)]

/-- The total is exact to the last of 28 digits, and a month may leave a deficit of one cent. -/
theorem shown_amounts_add_up_unequal :
    (∃ amounts total,
      balanceSummary unequalBalances = .ok (balanceList
        (List.zipWith balanceLine ["Carteira", "Cofre", "Emprestado"] amounts) total)
      ∧ Shows total (10 ^ 25 + 1 / 100 - 10))
    ∧ ∃ shownIncome shownExpenses net,
      monthlyReport (.ofInt 10) (.ofCents false 1001)
        = .ok (reportText shownIncome shownExpenses deficitMark net)
      ∧ Shows net (-1 / 100) := by
  obtain ⟨-, listed, reported⟩ := shown_amounts_add_up
  have value_eq : ∀ negative cents, (Decimal.ofCents negative cents).value
      = Decimal.signed negative cents / 100 := by
    intro negative cents
    norm_num [Decimal.ofCents, Decimal.value, div_eq_mul_inv]
  constructor
  · have counted : ∀ account ∈ unequalBalances, ∃ cents, account.2.IsCents cents := by
      simp only [unequalBalances, List.forall_mem_cons]
      exact ⟨⟨_, rfl, rfl⟩, ⟨_, rfl, rfl⟩, ⟨_, rfl, rfl⟩, List.forall_mem_nil _⟩
    have small : Decimal.totalSize (unequalBalances.map Prod.snd) < 10 ^ 26 := by
      simp only [Decimal.totalSize, unequalBalances, List.map_cons, List.map_nil, value_eq]
      norm_num [Decimal.signed, abs_of_neg]
    rcases listed unequalBalances (List.cons_ne_nil _ _) counted small with
      ⟨amounts, _, total, summary, rfl, -, total_shown⟩
    refine ⟨amounts, total, summary, ?_⟩
    convert total_shown using 1
    simp only [unequalBalances, List.map_cons, List.map_nil, value_eq]
    norm_num [Decimal.signed]
  · have income_eq : (Decimal.ofInt 10).value = 10 := by
      norm_num [Decimal.ofInt, Decimal.value, Decimal.signed]
    have expenses_eq : (Decimal.ofCents false 1001).value = 1001 / 100 := value_eq false 1001
    have earned : (Decimal.ofInt 10).IsCents 1000 := Decimal.isCents_iff.mpr ⟨rfl, by
      rw [income_eq]
      norm_num⟩
    rcases reported (.ofInt 10) (.ofCents false 1001) ⟨1000, earned⟩ (by norm_num [income_eq])
      (by norm_num [income_eq]) ⟨1001, rfl, rfl⟩ (by norm_num [expenses_eq])
      (by norm_num [expenses_eq]) with
      ⟨shownIncome, shownExpenses, marker, net, _, _, report, rfl, rfl, -, -, net_shown, -,
        marked⟩
    have deficit : (Decimal.ofInt 10).value - (Decimal.ofCents false 1001).value = -1 / 100 := by
      norm_num [income_eq, expenses_eq]
    rw [deficit] at net_shown marked
    rw [marked.mpr (by norm_num)] at report
    exact ⟨shownIncome, shownExpenses, net, report, net_shown⟩

end Wording

end Cashbook
