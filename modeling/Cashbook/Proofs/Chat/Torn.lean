import Cashbook.Proofs.Chat.Confirmation

/-!
# What a confirmation means for torn messages

A message from outside is answered whether or not its chat and its text hold halves of surrogate
pairs.  The answer begins with the mark of a confirmation exactly when the ledger has changed, since
an entry with a half in its description is never posted.
-/

namespace Cashbook.Chat

open Call Text

variable {context : OwnerContext} {rules : List KeywordRule} {intent other : Intent}
  {draft : EntryDraft} {message : LooseMessage} {reply : Reply} {world after : World}

/-! ## Answers -/

/-- What a torn draft is answered with is no confirmation. -/
theorem orTold_postTorn_eq_ok (run : orTold (draft.postTorn context) world = .ok reply after) :
    reply.status = 200 ∧ after.ledger = world.ledger ∧ ¬Wording.IsMarked reply.text := by
  have same := ((reads_orTold (draft.reads_postTorn context)).of_ok run).ledger
  unfold orTold at run
  rw [tryCatch_apply] at run
  cases posted : draft.postTorn context world with
  | ok text ended => exact absurd posted EntryDraft.postTorn_ne_ok
  | error failure ended =>
      rw [bind_of_error posted] at run
      cases family : failure.family with
      | internal =>
          simp only [family] at run
          cases run
      | refusal | storage | installments =>
          simp only [family] at run
          cases run
          exact ⟨rfl, same, Wording.not_isMarked_failure failure⟩

/-- A torn text is answered like another one, but what cannot be written is not posted. -/
theorem answerTorn_eq_ok (run : answerTorn context rules intent other world = .ok reply after) :
    reply.status = 200 ∧ ∃ asked,
      Tells context asked world.today world.ledger reply.text after.ledger := by
  have whole : ∀ {intent}, answer context rules intent world = .ok reply after →
      reply.status = 200 ∧ ∃ asked,
        Tells context asked world.today world.ledger reply.text after.ledger := by
    intro intent run
    rcases answer_eq_ok run with ⟨status, tells⟩
    exact ⟨status, _, tells⟩
  have torn : ∀ {draft : EntryDraft}, orTold (draft.postTorn context) world = .ok reply after →
      reply.status = 200 ∧ ∃ asked,
        Tells context asked world.today world.ledger reply.text after.ledger := by
    intro draft run
    rcases orTold_postTorn_eq_ok run with ⟨status, same, plain⟩
    rw [same]
    exact ⟨status, none, .nothing plain⟩
  unfold answerTorn at run
  split at run
  next amount description hint _ otherDescription otherHint =>
    dsimp only at run
    by_cases same : description = otherDescription
    · rw [if_pos same] at run
      exact whole run
    · rw [if_neg same] at run
      exact torn run
  next _ text =>
    cases interpreted : interpret text context.categories rules with
    | ok draft =>
        rw [interpreted] at run
        exact torn run
    | error complaint =>
        rw [interpreted] at run
        cases run
        exact ⟨rfl, none, .nothing (Wording.not_isMarked_complaint complaint)⟩
  next => exact whole run

theorem restores_answerTorn : Restores (answerTorn context rules intent other) := by
  have torn : ∀ draft : EntryDraft, Restores (orTold (draft.postTorn context)) :=
    fun draft => (reads_orTold (draft.reads_postTorn context)).restores
  unfold answerTorn
  split
  · exact .ite restores_answer (torn _)
  · split
    · exact torn _
    · exact Reads.restores (respects_pure _)
  · exact restores_answer

/-! ## Messages -/

namespace LooseMessage

/-- The active binding of the chat that a message comes from; a torn chat has none. -/
def binding? (message : LooseMessage) (ledger : Ledger) : Option Binding := do
  let chat ← message.chat.mapM LooseText.whole?
  Message.binding? ⟨chat, none⟩ ledger

theorem bindingOf_eq_ok {bound : Option Binding}
    (run : message.bindingOf world = .ok bound after) : bound = message.binding? world.ledger := by
  unfold bindingOf at run
  unfold binding?
  cases chat : message.chat.mapM LooseText.whole? with
  | none =>
      rw [chat] at run
      rcases bind_eq_ok_iff.mp run with ⟨_, _, -, thrown⟩
      cases thrown
  | some chat =>
      rw [chat] at run
      exact Chat.bindingOf_eq_ok run

/-- A message without halves comes from the chat that it comes from as a loose one. -/
theorem binding?_of_whole? {whole : Message} (same : message.whole? = some whole)
    (ledger : Ledger) : message.binding? ledger = whole.binding? ledger := by
  rcases Option.bind_eq_some_iff.mp same with ⟨chat, chat_eq, rest⟩
  rcases Option.bind_eq_some_iff.mp rest with ⟨text, -, made⟩
  cases made
  rw [binding?, chat_eq]
  rfl

end LooseMessage

/-- What a message that is confirmed has done: an expense of the owner that its chat speaks for is
spent from the first of the owner's accounts. -/
inductive Spends (message : LooseMessage) (today : Date) (before : Ledger) : Ledger → Prop where
  | intro {binding : Binding} {draft : EntryDraft} {account : Account} {cents : Int}
      {after : Ledger} (bound : message.binding? before = some binding)
      (counted : draft.amount.IsCents cents) (positive : 0 < cents)
      (first : (Account.activeOf before binding.owner).head? = some account)
      (spent : draft.Spent binding.owner account today before after) :
      Spends message today before after

theorem respondTorn_eq_ok (run : respondTorn message rules world = .ok reply after) :
    after.ledger = world.ledger ∧ ¬Wording.IsMarked reply.text
    ∨ reply.status = 200 ∧ Wording.IsMarked reply.text
      ∧ Spends message world.today world.ledger after.ledger := by
  rcases respondWith_eq_ok message.reads_bindingOf run with
    ⟨-, -, same, plain⟩ | ⟨-, binding, looked, begun, look, rests, last⟩
  · exact .inl ⟨same, plain⟩
  · rcases answerTorn_eq_ok last with ⟨status, asked, tells⟩
    rw [rests.ledger, rests.today] at tells
    generalize after.ledger = later at tells ⊢
    cases tells with
    | nothing plain => exact .inl ⟨rfl, plain⟩
    | @posted draft account cents _ same counted positive first spent marked =>
        have newest : (Account.activeOf world.ledger binding.owner).head? = some account := by
          simpa [Account.limited, OwnerContext.pageSize, List.head?_take] using first
        exact .inr ⟨status, marked,
          .intro (LooseMessage.bindingOf_eq_ok look).symm counted positive newest spent⟩

/-- What is spent changes the ledger. -/
theorem Spends.ne {today : Date} {before later : Ledger}
    (spends : Spends message today before later) : later ≠ before := by
  rcases spends with ⟨-, -, -, -, ⟨-, -, -, -⟩⟩
  intro same
  have longer := congrArg (fun ledger => ledger.entries.length) same
  simp [Ledger.setBalance] at longer

/-- Where every answer tells whether something was spent, and what fails is undone, the ledger
changes exactly when the answer is a confirmation. -/
theorem orDefect_outcome {respond : Call Reply} (restores : Restores respond)
    (tells : ∀ {reply after}, respond world = .ok reply after →
      after.ledger = world.ledger ∧ ¬Wording.IsMarked reply.text
      ∨ reply.status = 200 ∧ Wording.IsMarked reply.text
        ∧ Spends message world.today world.ledger after.ledger) :
    ∃ reply after, orDefect respond world = .ok reply after
      ∧ (after.ledger ≠ world.ledger ↔ Wording.IsMarked reply.text)
      ∧ (after.ledger ≠ world.ledger → reply.status = 200
          ∧ Spends message world.today world.ledger after.ledger) := by
  unfold orDefect
  rw [tryCatch_apply]
  cases run : respond world with
  | ok reply after =>
      rcases tells run with ⟨same, plain⟩ | ⟨status, marked, spends⟩
      · exact ⟨reply, after, rfl, iff_of_false (not_not.mpr same) plain,
          fun changed => absurd same changed⟩
      · exact ⟨reply, after, rfl, iff_of_true spends.ne marked, fun _ => ⟨status, spends⟩⟩
  | error failure after =>
      have same := restores run
      exact ⟨_, after, rfl,
        iff_of_false (not_not.mpr same) (Wording.not_isMarked_ofList_cons (by decide)),
        fun changed => absurd same changed⟩

/-- Every message from outside is answered, wherever storage fails.  The ledger changes exactly when
the answer is a confirmation, and then an expense was spent for the owner of the chat. -/
theorem handleLoose_changes_iff_confirms (message : LooseMessage) (rules : List KeywordRule)
    (world : World) :
    ∃ reply after, handleLoose message rules world = .ok reply after
      ∧ (after.ledger ≠ world.ledger ↔ Wording.IsMarked reply.text)
      ∧ (after.ledger ≠ world.ledger → reply.status = 200
          ∧ Spends message world.today world.ledger after.ledger) := by
  cases whole : message.whole? with
  | none =>
      rw [handleLoose, whole]
      exact orDefect_outcome (restores_respondWith message.reads_bindingOf fun _ =>
        restores_answerTorn) respondTorn_eq_ok
  | some plain =>
      rw [handleLoose, whole]
      refine orDefect_outcome restores_respond fun run => ?_
      refine (respond_eq_ok run).2.imp_right ?_
      rintro ⟨status, marked, bound, -, counted, positive, first, -, -, spent⟩
      exact ⟨status, marked, .intro ((message.binding?_of_whole? whole _).trans bound) counted
        positive first spent⟩

end Cashbook.Chat
