import Cashbook.Ledger.AccountName
import Cashbook.Proofs.Evolution
import Cashbook.Proofs.Integer
import Cashbook.Proofs.Ledger.Listing
import Cashbook.Proofs.Posting.Drafts

/-!
# Accounts by age, by number and by name

The accounts in use are listed by the moment that they were written at and then by number, the
newest first.  A text that denotes a number means the account with this number, in use or not, and
never one of this name; every other text means the newest account in use of that name.
-/

namespace Cashbook.Account

open Call Money

variable {world : World} {ledger : Ledger} {owner text : String} {account newest other : Account}

/-! ## The order of accounts -/

/-- Was an account written before another one, or at the same moment and with no larger number? -/
def IsNoNewerThan (account other : Account) : Prop :=
  account.writtenAt.rank < other.writtenAt.rank
    ∨ account.writtenAt.rank = other.writtenAt.rank ∧ account.id ≤ other.id

instance (account other : Account) : Decidable (account.IsNoNewerThan other) :=
  inferInstanceAs (Decidable (_ ∨ _))

theorem listedBefore_iff : listedBefore newest account = true ↔ account.IsNoNewerThan newest := by
  simp only [listedBefore, IsNoNewerThan, Bool.or_eq_true, Bool.and_eq_true, decide_eq_true_iff,
    beq_iff_eq]
  omega

theorem listedBefore_trans (first second third : Account)
    (former : listedBefore first second = true) (latter : listedBefore second third = true) :
    listedBefore first third = true := by
  rw [listedBefore_iff] at *
  unfold IsNoNewerThan at *
  omega

theorem listedBefore_total (first second : Account) :
    (listedBefore first second || listedBefore second first) = true := by
  rw [Bool.or_eq_true, listedBefore_iff, listedBefore_iff]
  unfold IsNoNewerThan
  omega

theorem pairwise_activeOf (ledger : Ledger) (owner : String) :
    (activeOf ledger owner).Pairwise fun newer older => listedBefore newer older = true :=
  List.pairwise_mergeSort listedBefore_trans listedBefore_total _

theorem mem_activeOf_iff : account ∈ activeOf ledger owner
    ↔ account ∈ ledger.accounts ∧ account.owner = owner ∧ account.active = true := by
  rw [activeOf, List.mem_mergeSort, List.mem_filter, decide_eq_true_iff]

/-- Accounts are listed where storage does not fail and the limit fits into 64 bits. -/
theorem list_of_listable
    (listable : ∀ fault, world.fault = some fault → fault.point ≠ .accountListing)
    {limit : Option Int} (word : ∀ given, limit = some given → Integer.isWord given = true)
    (owner : String) :
    list owner limit world = .ok (limited limit (activeOf world.ledger owner)) world := by
  rw [list, bind_of_ok (failAt_of_point_ne listable .crash), bind_of_ok (checkWord?_of_word word)]
  rfl

/-! ## Accounts that a text means -/

/-- Is an account in use, of an owner and of a name? -/
structure IsNamed (account : Account) (owner name : String) : Prop where
  owner : account.owner = owner
  active : account.active = true
  name : account.name = name

instance (account : Account) (owner name : String) : Decidable (account.IsNamed owner name) :=
  decidable_of_iff (account.owner = owner ∧ account.active = true ∧ account.name = name)
    ⟨fun ⟨own, active, named⟩ => ⟨own, active, named⟩,
      fun named => ⟨named.owner, named.active, named.name⟩⟩

/-- A text that denotes a number is looked up as this number. -/
theorem resolve_of_denotes {number : Int} (denotes : Integer.Denotes text.toList number)
    (word : Integer.isWord number = true) :
    (resolve owner text).answer world
      = if world.ledger.HasAccount owner number then .ok number
        else .error (.unknownAccountId number) := by
  have read : Integer.read? text.toList = some number := Integer.read?_eq_some_iff.mpr denotes
  have found := @EntryDraft.find_of_word world number word owner
  unfold resolve answer
  rw [read]
  dsimp only
  rw [bind_of_ok found]
  cases look : world.ledger.account? owner number with
  | none =>
      have missing : ¬world.ledger.HasAccount owner number := by
        rintro ⟨account, member, rfl, rfl⟩
        have refused := List.find?_eq_none.mp look account member
        simp at refused
      exact (if_neg missing).symm
  | some account =>
      rcases Ledger.account?_spec look with ⟨member, same, own⟩
      have present : world.ledger.HasAccount owner number := ⟨account, member, same, own⟩
      exact (if_pos present).symm

/-- Every other text is looked up as a name. -/
theorem resolve_of_name
    (listable : ∀ fault, world.fault = some fault → fault.point ≠ .accountListing)
    (wordy : ∀ number, ¬Integer.Denotes text.toList number) :
    (resolve owner text).answer world
      = match (activeOf world.ledger owner).find? fun account => account.name = text with
        | some account => .ok account.id
        | none => .error (.unknownAccountName text) := by
  have unread : Integer.read? text.toList = none := by
    rw [Option.eq_none_iff_forall_ne_some]
    exact fun number read => wordy number (Integer.read?_eq_some_iff.mp read)
  unfold resolve answer
  rw [unread]
  dsimp only
  rw [bind_of_ok (list_of_listable listable (by simp) owner)]
  unfold limited
  dsimp only
  cases (activeOf world.ledger owner).find? fun account => account.name = text <;> rfl

/-- The account that is found by its name is in use, and none of that name is newer. -/
theorem find?_activeOf_eq_some
    (found : (activeOf ledger owner).find? (fun account => account.name = text) = some newest) :
    newest ∈ ledger.accounts ∧ newest.IsNamed owner text
      ∧ ∀ other ∈ ledger.accounts, other.IsNamed owner text → other.IsNoNewerThan newest := by
  rcases mem_activeOf_iff.mp (List.mem_of_find?_eq_some found) with ⟨member, own, active⟩
  have named := List.find?_some found
  refine ⟨member, ⟨own, active, of_decide_eq_true named⟩, ?_⟩
  intro other other_member other_named
  have listed := mem_activeOf_iff.mpr ⟨other_member, other_named.owner, other_named.active⟩
  rcases eq_or_before_of_find? (pairwise_activeOf ledger owner) found listed
    (decide_eq_true other_named.name) with rfl | newer
  · exact .inr ⟨rfl, le_rfl⟩
  · exact listedBefore_iff.mp newer

/-- An account is found by its name where one in use has it. -/
theorem exists_find?_activeOf_eq (member : account ∈ ledger.accounts)
    (named : account.IsNamed owner text) :
    ∃ newest, (activeOf ledger owner).find? (fun account => account.name = text)
      = some newest := by
  rw [← Option.isSome_iff_exists, List.find?_isSome]
  exact ⟨account, mem_activeOf_iff.mpr ⟨member, named.owner, named.active⟩,
    decide_eq_true named.name⟩

/-- What a text means is an account of the owner, which has the number that the text denotes or is
in use and has the text as its name. -/
theorem exists_of_resolve_eq_ok {id : Int}
    (answered : (resolve owner text).answer world = .ok id) :
    ∃ account ∈ world.ledger.accounts, account.id = id ∧ account.owner = owner
      ∧ (Integer.Denotes text.toList id ∨ account.active = true ∧ account.name = text) := by
  cases read : Integer.read? text.toList with
  | some number =>
      have denotes := Integer.read?_eq_some_iff.mp read
      cases word : Integer.isWord number with
      | true =>
          have told : (resolve owner text).answer world = _ := resolve_of_denotes denotes word
          rw [answered] at told
          split_ifs at told with known
          rcases known with ⟨account, member, same, own⟩
          obtain rfl := Except.ok.inj told
          exact ⟨account, member, same, own, .inl denotes⟩
      | false =>
          have failed : find owner number world = .error .idTooLarge world :=
            bind_of_error (checkWord_of_not_isWord word)
          unfold resolve answer at answered
          rw [read] at answered
          dsimp only at answered
          rw [bind_of_error failed] at answered
          cases answered
  | none =>
      rcases answer_eq_ok_iff.mp answered with ⟨after, run⟩
      unfold resolve at run
      rw [read] at run
      rcases bind_eq_ok_iff.mp run with ⟨accounts, middle, listed, rest⟩
      obtain rfl := list_eq_ok listed
      cases found : (activeOf world.ledger owner).find? fun account => account.name = text with
      | none =>
          simp only [limited, found] at rest
          cases rest
      | some account =>
          simp only [limited, found] at rest
          cases rest
          obtain ⟨member, named, -⟩ := find?_activeOf_eq_some found
          exact ⟨account, member, rfl, named.owner, .inr ⟨named.active, named.name⟩⟩

/-- A text means an account of the owner only, which has the number that the text denotes or is in
use and has the text as its name.  The newest account in use of that name is meant whenever the text
denotes no number and listing does not fail.  A text that denotes a number of 64 bits means the
account of this number or none. -/
theorem resolve_finds (world : World) (owner text : String) :
    (∀ id, (resolve owner text).answer world = .ok id →
      ∃ account ∈ world.ledger.accounts, account.id = id ∧ account.owner = owner
        ∧ (Integer.Denotes text.toList id ∨ account.active = true ∧ account.name = text))
    ∧ ((∀ fault, world.fault = some fault → fault.point ≠ .accountListing) →
        (∀ number, ¬Integer.Denotes text.toList number) →
        ∀ account ∈ world.ledger.accounts, account.IsNamed owner text →
          ∃ newest ∈ world.ledger.accounts, newest.IsNamed owner text
            ∧ (resolve owner text).answer world = .ok newest.id
            ∧ ∀ other ∈ world.ledger.accounts, other.IsNamed owner text →
              other.IsNoNewerThan newest)
    ∧ ∀ number, Integer.Denotes text.toList number → Integer.isWord number = true →
        (resolve owner text).answer world
          = if world.ledger.HasAccount owner number then .ok number
            else .error (.unknownAccountId number) := by
  refine ⟨fun id => exists_of_resolve_eq_ok, ?_, fun number => resolve_of_denotes⟩
  intro listable wordy account member named
  rcases exists_find?_activeOf_eq member named with ⟨newest, found⟩
  rcases find?_activeOf_eq_some found with ⟨newest_member, newest_named, newest_of_all⟩
  refine ⟨newest, newest_member, newest_named, ?_, newest_of_all⟩
  rw [resolve_of_name listable wordy, found]

/-- Three accounts have one name, the last of them out of use again, and the name of a fourth one is
a numeral. -/
def numbered : World :=
  (World.start World.newYear.today World.newYear.now).later
    [.ask (.createAccount "ana" "Carteira" .wallet .zero),
     .ask (.createAccount "ana" "Carteira" .wallet .zero),
     .ask (.createAccount "ana" "Carteira" .wallet .zero),
     .ask (.createAccount "ana" "2024" .savings .zero),
     .ask (.deactivateAccount 3)]

/-- A name means the newest account in use, and a numeral the account of this number, which may be
out of use. -/
theorem resolve_finds_numbered :
    (resolve "ana" "Carteira").answer numbered = .ok 2
      ∧ (resolve "ana" " 3").answer numbered = .ok 3 := by
  have listable : ∀ fault, numbered.fault = some fault → fault.point ≠ .accountListing :=
    World.point_ne_of_faultless (by decide +kernel) _
  have wordy : ∀ number, ¬Integer.Denotes "Carteira".toList number := by
    intro number denotes
    have unread : Integer.read? "Carteira".toList = none := by decide +kernel
    cases unread.symm.trans (Integer.read?_eq_some_iff.mpr denotes)
  have three : Integer.Denotes " 3".toList 3 :=
    Integer.read?_eq_some_iff.mp (by decide +kernel)
  have named : ∃ account ∈ numbered.ledger.accounts, account.IsNamed "ana" "Carteira" := by
    decide +kernel
  have newest_of_named : ∀ newest ∈ numbered.ledger.accounts, newest.IsNamed "ana" "Carteira" →
      (∀ other ∈ numbered.ledger.accounts, other.IsNamed "ana" "Carteira" →
        other.IsNoNewerThan newest) → newest.id = 2 := by
    decide +kernel
  constructor
  · rcases named with ⟨account, member, named⟩
    rcases (resolve_finds numbered "ana" "Carteira").2.1 listable wordy account member named with
      ⟨newest, newest_member, newest_named, answered, newest_of_all⟩
    rw [answered, newest_of_named newest newest_member newest_named newest_of_all]
  · rw [(resolve_finds numbered "ana" " 3").2.2 3 three (by decide),
      if_pos (by decide +kernel)]

/-- An account in use whose name is a numeral is not found by its name, although no account has the
number. -/
theorem resolve_misses_numbered :
    (∃ account ∈ numbered.ledger.accounts, account.IsNamed "ana" "2024")
    ∧ (∀ number, Integer.Denotes "2024".toList number → ¬numbered.ledger.HasAccount "ana" number)
    ∧ (resolve "ana" "2024").answer numbered = .error (.unknownAccountId 2024) := by
  refine ⟨by decide +kernel, ?_, by decide +kernel⟩
  intro number denotes
  have read : Integer.read? "2024".toList = some 2024 := by decide +kernel
  cases read.symm.trans (Integer.read?_eq_some_iff.mpr denotes)
  decide +kernel

end Cashbook.Account
