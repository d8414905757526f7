import Cashbook.Proofs.Posting.Drafts
import Cashbook.Proofs.Services

/-!
# What is planned before anything is added

Adding an entry or a transfer at the command line reads first and writes last.  All that is read
comes down to a plan, which the words, the current day and the ledger settle between them: a draft
to post, a complaint to the user, or a failure that no line is for.  The command ends as its plan
does, unless a fault shows while it reads.
-/

namespace Cashbook

open Call Money Text

/-! ## Calls that end as others -/

namespace Call

variable {Answer Next : Type} {call middleCall rest : Call Answer} {world : World}

/-- Does a call end as another one does once it has read what it needs, unless a fault makes it
crash while it reads? -/
def EndsAs (call rest : Call Answer) (world : World) : Prop :=
  ∃ middle, world.Rests middle ∧ (world.fault = none → middle = world)
    ∧ (call world = rest middle ∨ world.fault ≠ none ∧ call world = .error .crash middle)

theorem endsAs_of_eq (same : call world = rest world) : EndsAs call rest world :=
  ⟨world, .refl world, fun _ => rfl, .inl same⟩

theorem endsAs_refl (call : Call Answer) (world : World) : EndsAs call call world :=
  endsAs_of_eq rfl

theorem EndsAs.congr (same : call world = middleCall world)
    (ends : EndsAs middleCall rest world) : EndsAs call rest world := by
  unfold EndsAs
  rw [same]
  exact ends

theorem EndsAs.trans (first : EndsAs call middleCall world)
    (second : ∀ middle, world.Rests middle → EndsAs middleCall rest middle) :
    EndsAs call rest world := by
  rcases first with ⟨middle, rests, still, ended | ⟨armed, failed⟩⟩
  · rcases second middle rests with ⟨last, later, later_still, outcome⟩
    have still_faultless : world.fault = none → middle.fault = none := by
      intro faultless
      rw [still faultless]
      exact faultless
    refine ⟨last, rests.trans later, fun faultless => ?_, ?_⟩
    · rw [later_still (still_faultless faultless), still faultless]
    · rw [ended]
      exact outcome.imp_right fun crashed => ⟨mt still_faultless crashed.1, crashed.2⟩
  · exact ⟨middle, rests, still, .inr ⟨armed, failed⟩⟩

/-- What a call reads, the rest goes on with. -/
theorem EndsAs.bind {call : Call Answer} {answer : Answer} {next : Answer → Call Next}
    (first : EndsAs call (pure answer) world) : EndsAs (call >>= next) (next answer) world := by
  rcases first with ⟨middle, rests, still, ended | ⟨armed, failed⟩⟩
  · exact ⟨middle, rests, still, .inl (bind_of_ok ended)⟩
  · exact ⟨middle, rests, still, .inr ⟨armed, bind_of_error failed⟩⟩

/-- Without faults a call ends as the other one. -/
theorem EndsAs.eq_of_faultless (ends : EndsAs call rest world) (faultless : world.fault = none) :
    call world = rest world := by
  rcases ends with ⟨middle, -, still, ended | ⟨armed, -⟩⟩
  · rw [ended, still faultless]
  · exact absurd faultless armed

end Call

/-- The accounts of an owner are listed unless a fault shows. -/
theorem Account.list_endsAs (owner : String) (world : World) :
    EndsAs (list owner none) (pure (activeOf world.ledger owner)) world := by
  have listed : ∀ middle, world.Rests middle →
      (do
        checkWord? none
        return limited none (activeOf (← ledger) owner) : Call (List Account)) middle
        = .ok (activeOf world.ledger owner) middle := by
    intro middle rests
    rw [← rests.ledger]
    rfl
  cases shown : failAt .accountListing .crash world with
  | ok _ middle =>
      have rests := (reads_failAt _ _).of_ok shown
      refine ⟨middle, rests, fun faultless => ?_, .inl ((bind_of_ok shown).trans ?_)⟩
      · rw [failAt_of_faultless faultless] at shown
        cases shown
        rfl
      · exact listed middle rests
  | error failure middle =>
      have rests := (reads_failAt _ _).of_error shown
      have armed : world.fault ≠ none := by
        intro faultless
        rw [failAt_of_faultless faultless] at shown
        cases shown
      have crashed : failure = .crash := by
        have crashes : FailsAs (· = .crash) (failAt .accountListing .crash) := failsAs_failAt rfl
        exact crashes shown
      subst crashed
      exact ⟨middle, rests, fun faultless => absurd faultless armed,
        .inr ⟨armed, bind_of_error shown⟩⟩

/-! ## Plans -/

namespace CommandLine

/-- Why there is nothing to go on with. -/
inductive Hindrance where
  /-- The user is told. -/
  | complaint (text : String)
  /-- No line is for it. -/
  | failure (failure : Failure)

/-- Goes on with what is planned; a complaint ends the command, and so does a failure. -/
def settle {Plan : Type} (plan : Except Hindrance Plan) (next : Plan → Call Ending) : Call Ending :=
  match plan with
  | .ok plan => next plan
  | .error (.complaint text) => return .refused text
  | .error (.failure failure) => throw failure

section

variable {Plan Next : Type} {plan : Except Hindrance Plan}

/-- A plan is settled part by part. -/
theorem settle_bind (each : Plan → Except Hindrance Next) (next : Next → Call Ending) :
    settle (plan >>= each) next = settle plan fun part => settle (each part) next := by
  cases plan with
  | ok part => rfl
  | error hindrance => cases hindrance <;> rfl

theorem settle_map (change : Plan → Next) (next : Next → Call Ending) :
    settle (change <$> plan) next = settle plan fun part => next (change part) := by
  cases plan with
  | ok part => rfl
  | error hindrance => cases hindrance <;> rfl

/-- What goes on alike with every part goes on alike with the plan. -/
theorem endsAs_settle {world : World} {first second : Plan → Call Ending}
    (each : ∀ part, EndsAs (first part) (second part) world) :
    EndsAs (settle plan first) (settle plan second) world := by
  cases plan with
  | ok part => exact each part
  | error hindrance => cases hindrance <;> exact endsAs_refl _ world

end

/-- The day that a text names, if it names one. -/
def dateMeant (text : Option String) (today : Date) : Except Hindrance (Option Date) :=
  match text.filter (· ≠ "") with
  | none => .ok none
  | some text =>
      match Date.Phrase.read today text.toList with
      | .ok date => .ok (some date)
      | .error (.unreadable phrase error) =>
          .error (.complaint
            ("Invalid date format: " ++ Date.Phrase.unreadableMessage phrase error))
      | .error .outsideCalendar => .error (.failure (.calendar .outsideCalendar))
      | .error (.arithmetic error) => .error (.failure (.arithmetic error))
      | .error .yearBeforeZero => .error (.failure .yearBeforeZero)

/-- The account that a text means: the one with this number, or else the newest in use with this
name. -/
def accountMeant (owner text : String) (ledger : Ledger) : Except Hindrance Int :=
  match Integer.read? text.toList with
  | some id =>
      if Integer.isWord id = false then .error (.failure .idTooLarge)
      else if (ledger.account? owner id).isNone then
        .error (.complaint (Failure.unknownAccountId id).message)
      else .ok id
  | none =>
      match (Account.activeOf ledger owner).find? fun account => account.name = text with
      | some account => .ok account.id
      | none => .error (.complaint (Failure.unknownAccountName text).message)

/-- The account that a text means, if there is a text. -/
def accountMeant? (owner : String) (text : Option String) (ledger : Ledger) :
    Except Hindrance (Option Int) :=
  match text with
  | some text => some <$> accountMeant owner text ledger
  | none => .ok none

/-- The category of an owner that a text names in any letter case, if it names one. -/
def categoryMeant (owner : String) (text : Option String) (ledger : Ledger) :
    Except Hindrance (Option Category) :=
  match text.filter (· ≠ "") with
  | none => .ok none
  | some text =>
      match (Category.allOf ledger owner).find? fun category =>
          lower category.name.toList = lower text.toList with
      | some category => .ok (some category)
      | none => .error (.complaint ("Category '" ++ text ++ "' not found"))

/-- What is at hand about an owner at the command line: all accounts in use and all categories. -/
def atHand (owner : String) (ledger : Ledger) : OwnerContext :=
  ⟨owner, Account.activeOf ledger owner, Category.allOf ledger owner⟩

namespace EntryWords

/-- The transfer that words ask for. -/
def transferMeant (words : EntryWords) (owner : String) (amount : Decimal) (ledger : Ledger) :
    Except Hindrance TransferDraft :=
  match words.account, words.target with
  | some source, some target =>
      if 1 < words.installments then
        .error (.complaint "Transfers cannot be split into installments")
      else do
        let source ← accountMeant owner source ledger
        let target ← accountMeant owner target ledger
        return ⟨source, target, amount, words.description⟩
  | _, _ => .error (.complaint "Transfers need both --account and --to-account")

/-- The entry or the series that words ask for. -/
def entryMeant (words : EntryWords) (owner : String) (amount : Decimal) (date : Option Date)
    (ledger : Ledger) : Except Hindrance EntryDraft := do
  let account ← accountMeant? owner words.account ledger
  let category ← categoryMeant owner words.category ledger
  return {
    amount := amount
    description := words.description
    category := category
    kind := words.kind
    date := date
    installments := words.installments
    account := account
    card := words.card }

/-- The amount that words say. -/
def amountMeant (words : EntryWords) : Except Hindrance Decimal :=
  match readAmount words.amount.toList with
  | .ok amount => .ok amount
  | .error error => .error (.complaint ("Invalid amount format: " ++ error.message))

/-- What words ask for on a day. -/
def meant (words : EntryWords) (owner : String) (today : Date) (ledger : Ledger) :
    Except Hindrance Draft := do
  let amount ← words.amountMeant
  let date ← dateMeant words.date today
  if words.kind = .transfer then .transfer <$> words.transferMeant owner amount ledger
  else .entry <$> words.entryMeant owner amount date ledger

end EntryWords

/-! ## Commands end as planned -/

section

variable {world : World} {owner : String}

theorem withDate_eq (text : Option String) (andThen : Option Date → Call Ending) (world : World) :
    withDate text andThen world = settle (dateMeant text world.today) andThen world := by
  unfold withDate dateMeant
  cases text.filter (· ≠ "") with
  | none => rfl
  | some text =>
      dsimp only
      rw [bind_of_ok (get_apply world)]
      cases Date.Phrase.read world.today text.toList with
      | ok date => rfl
      | error error => cases error <;> rfl

/-- An account that is not known is a refusal; every other failure stays one. -/
theorem withAccount_eq (owner text : String) (andThen : Int → Call Ending) (world : World) :
    withAccount owner text andThen world =
      match Account.resolve owner text world with
      | .ok id middle => andThen id middle
      | .error (.unknownAccountId id) middle =>
          .ok (.refused (Failure.unknownAccountId id).message) middle
      | .error (.unknownAccountName name) middle =>
          .ok (.refused (Failure.unknownAccountName name).message) middle
      | .error failure middle => .error failure middle := by
  unfold withAccount
  rw [map_eq_bind]
  change EStateM.bind _ _ world = _
  unfold EStateM.bind
  rw [tryCatch_apply]
  cases resolved : Account.resolve owner text world with
  | ok id middle =>
      rw [bind_of_ok resolved]
      rfl
  | error failure middle =>
      rw [bind_of_error resolved]
      cases failure <;> rfl

theorem withAccount_endsAs (owner text : String) (andThen : Int → Call Ending) (world : World) :
    EndsAs (withAccount owner text andThen)
      (settle (accountMeant owner text world.ledger) andThen) world := by
  have decided := withAccount_eq owner text andThen world
  unfold accountMeant
  unfold Account.resolve at decided
  cases number : Integer.read? text.toList with
  | some id =>
      simp only [number] at decided ⊢
      apply endsAs_of_eq
      cases word : Integer.isWord id with
      | false =>
          have failed : Account.find owner id world = .error .idTooLarge world :=
            bind_of_error (checkWord_of_not_isWord word)
          rw [decided, bind_of_error failed, if_pos rfl]
          rfl
      | true =>
          have found := @EntryDraft.find_of_word world id word owner
          rw [decided, bind_of_ok found]
          cases world.ledger.account? owner id with
          | none => rfl
          | some account => rfl
  | none =>
      simp only [number] at decided ⊢
      rcases Account.list_endsAs owner world with ⟨middle, rests, still, listed | ⟨armed, failed⟩⟩
      · refine ⟨middle, rests, still, .inl ?_⟩
        rw [decided, bind_of_ok listed]
        cases (Account.activeOf world.ledger owner).find? fun account => account.name = text with
        | none => rfl
        | some account => rfl
      · refine ⟨middle, rests, still, .inr ⟨armed, ?_⟩⟩
        rw [decided, bind_of_error failed]

theorem withAccount?_endsAs (owner : String) (text : Option String)
    (andThen : Option Int → Call Ending) (world : World) :
    EndsAs (withAccount? owner text andThen)
      (settle (accountMeant? owner text world.ledger) andThen) world := by
  cases text with
  | none => exact endsAs_refl _ world
  | some text =>
      rw [accountMeant?, settle_map]
      exact withAccount_endsAs owner text _ world

theorem withCategory_eq (owner : String) (text : Option String)
    (andThen : Option Category → Call Ending) (ledger : Ledger) :
    withCategory (Category.allOf ledger owner) text andThen
      = settle (categoryMeant owner text ledger) andThen := by
  unfold withCategory categoryMeant
  cases text.filter (· ≠ "") with
  | none => rfl
  | some text =>
      dsimp only
      cases (Category.allOf ledger owner).find? fun category =>
          lower category.name.toList = lower text.toList with
      | none => rfl
      | some category => rfl

/-- A transfer is posted as it is meant. -/
theorem addTransfer_endsAs (owner : String) (words : EntryWords) (amount : Decimal)
    (world : World) :
    EndsAs (addTransfer (atHand owner world.ledger) words amount)
      (settle (words.transferMeant owner amount world.ledger) fun draft =>
        postDraft (atHand owner world.ledger) (.transfer draft)) world := by
  unfold addTransfer EntryWords.transferMeant
  cases words.account with
  | none => exact endsAs_refl _ world
  | some source =>
      cases words.target with
      | none => exact endsAs_refl _ world
      | some target =>
          dsimp only
          by_cases split : 1 < words.installments
          · rw [if_pos split, if_pos split]
            exact endsAs_refl _ world
          · rw [if_neg split, if_neg split, settle_bind]
            apply (withAccount_endsAs owner source _ world).trans
            intro middle rests
            apply endsAs_settle
            intro source
            rw [settle_bind, ← rests.ledger]
            exact withAccount_endsAs owner target _ middle

/-- An entry or a series is posted as it is meant. -/
theorem addSingle_endsAs (owner : String) (words : EntryWords) (amount : Decimal)
    (date : Option Date) (world : World) :
    EndsAs (addSingle (atHand owner world.ledger) words amount date)
      (settle (words.entryMeant owner amount date world.ledger) fun draft =>
        postDraft (atHand owner world.ledger) (.entry draft)) world := by
  unfold addSingle EntryWords.entryMeant
  rw [settle_bind]
  apply (withAccount?_endsAs owner words.account _ world).trans
  intro middle _
  apply endsAs_settle
  intro account
  rw [settle_bind, atHand, withCategory_eq]
  exact endsAs_refl _ middle

/-- What is at hand decides what is added. -/
theorem addAtHand_endsAs (owner : String) (words : EntryWords) (amount : Decimal)
    (date : Option Date) (world : World) :
    EndsAs
      (do
        let categories ← Category.list owner
        let context : OwnerContext := ⟨owner, Account.activeOf world.ledger owner, categories⟩
        if words.kind = .transfer then addTransfer context words amount
        else addSingle context words amount date)
      (settle
        (if words.kind = .transfer then .transfer <$> words.transferMeant owner amount world.ledger
        else .entry <$> words.entryMeant owner amount date world.ledger)
        (postDraft (atHand owner world.ledger))) world := by
  have listed : Category.list owner world = .ok (Category.allOf world.ledger owner) world := rfl
  apply EndsAs.congr (bind_of_ok listed)
  by_cases transfer : words.kind = .transfer
  · simp only [if_pos transfer, settle_map]
    exact addTransfer_endsAs owner words amount world
  · simp only [if_neg transfer, settle_map]
    exact addSingle_endsAs owner words amount date world

/-- Adding ends as planned: a draft is posted with what is at hand. -/
theorem addEntry_endsAs (owner : String) (words : EntryWords) (world : World) :
    EndsAs (addEntry owner words)
      (settle (words.meant owner world.today world.ledger) (postDraft (atHand owner world.ledger)))
      world := by
  unfold addEntry EntryWords.meant EntryWords.amountMeant
  cases readAmount words.amount.toList with
  | error error => exact endsAs_refl _ world
  | ok amount =>
      apply EndsAs.congr (withDate_eq words.date _ world)
      rw [settle_bind]
      change EndsAs _ (settle (_ >>= _) _) world
      rw [settle_bind]
      apply endsAs_settle
      intro date
      apply (Account.list_endsAs owner world).bind.trans
      intro middle rests
      rw [← rests.ledger]
      exact addAtHand_endsAs owner words amount date middle

end

end CommandLine

end Cashbook
