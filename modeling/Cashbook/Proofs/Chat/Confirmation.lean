import Cashbook.Proofs.Posting.Single
import Cashbook.Proofs.Services
import Cashbook.Proofs.Wording

/-!
# What a confirmation in a chat means

A chat message is answered whatever happens.  The answer begins with the mark of a confirmation
exactly when the ledger has changed, and then one expense was posted to the first account of the
chat's owner and nothing else has happened.
-/

namespace Cashbook.Chat

open Call Money Text

variable {context : OwnerContext} {rules : List KeywordRule} {intent : Intent}
  {draft : EntryDraft} {message : Message} {reply : Reply} {world after : World}

/-! ## What messages ask for -/

/-- The expense that a message asks for, if it asks for one. -/
def Intent.draft? (categories : List Category) (rules : List KeywordRule) :
    Intent → Option EntryDraft
  | addExpense amount description hint =>
      some { amount := amount
             description := String.ofList description
             category := hintedCategory categories hint }
  | freeText text => (interpret text categories rules).toOption
  | _ => none

/-- The text of a message without blanks around it. -/
def Message.trimmed (message : Message) : List Char :=
  trim (message.text.getD "").toList

/-- The active binding of the chat that a message comes from. -/
def Message.binding? (message : Message) (ledger : Ledger) : Option Binding := do
  let chat ← message.chat
  if chat = "" then none
  else ledger.bindings.find? fun binding => binding.chat = chat ∧ binding.active

theorem hintedCategory_spec {categories : List Category} {hint : List Char} {category : Category}
    (hinted : hintedCategory categories hint = some category) :
    category ∈ categories ∧ category.kind = .expense := by
  unfold hintedCategory at hinted
  split_ifs at hinted
  have admitted := List.find?_some hinted
  simp only [isHinted, Bool.and_eq_true, beq_iff_eq] at admitted
  exact ⟨List.mem_of_find?_eq_some hinted, admitted.1⟩

/-- A sentence tells of a simple expense, which the keywords in it sort. -/
theorem interpret_eq_ok {text : List Char} {categories : List Category}
    (told : interpret text categories rules = .ok draft) :
    draft.IsSimple
      ∧ draft.category
        = (classify rules text).bind fun hint => hintedCategory categories hint.toList := by
  unfold interpret at told
  cases found : MoneyExpression.find? text with
  | none =>
      rw [found] at told
      cases told
  | some money =>
      rw [found] at told
      rcases Except.bind_eq_ok_iff.mp told with ⟨amount, -, drafted⟩
      cases drafted
      exact ⟨⟨rfl, rfl, rfl, rfl, rfl⟩, rfl⟩

/-- A sentence asks for the expense that it tells of. -/
theorem Intent.draft?_freeText_eq_some {text : List Char} {categories : List Category}
    (asked : (freeText text).draft? categories rules = some draft) :
    interpret text categories rules = .ok draft := by
  change (interpret text categories rules).toOption = some draft at asked
  cases told : interpret text categories rules with
  | ok other =>
      rw [told] at asked
      exact congrArg Except.ok (Option.some.inj asked)
  | error complaint =>
      rw [told] at asked
      cases asked

/-- An expense that a message asks for is simple, and its category is one of those at hand. -/
theorem Intent.draft?_spec {categories : List Category}
    (asked : intent.draft? categories rules = some draft) :
    draft.IsSimple
      ∧ ∀ category ∈ draft.category, category ∈ categories ∧ category.kind = .expense := by
  cases intent with
  | addExpense amount description hint =>
      cases asked
      exact ⟨⟨rfl, rfl, rfl, rfl, rfl⟩, fun category hinted => hintedCategory_spec hinted⟩
  | freeText text =>
      obtain ⟨simple, sorted⟩ := interpret_eq_ok (draft?_freeText_eq_some asked)
      refine ⟨simple, fun category chosen => ?_⟩
      rcases Option.bind_eq_some_iff.mp (sorted ▸ chosen) with ⟨hint, -, hinted⟩
      exact hintedCategory_spec hinted
  | balance => cases asked
  | report => cases asked
  | help => cases asked
  | malformed complaint => cases asked

/-! ## Failures -/

/-- Is this a failure that is never explained to the user? -/
abbrev IsInternal (failure : Failure) : Prop :=
  failure.family = .internal

theorem failsAs_postDraft : FailsAs IsInternal (postDraft context draft) := by
  apply failsAs_tryCatch
  intro failure
  cases family : failure.family with
  | internal => exact failsAs_throw family
  | refusal => exact failsAs_pure _
  | storage => exact failsAs_pure _
  | installments => exact failsAs_pure _

theorem failsAs_answer : FailsAs IsInternal (answer context rules intent) := by
  have crash : IsInternal .crash := rfl
  have calendar : ∀ error, IsInternal (.calendar error) := fun _ => rfl
  have arithmetic : ∀ error, IsInternal (.arithmetic error) := fun _ => rfl
  cases intent with
  | addExpense amount description hint => exact failsAs_postDraft
  | balance => exact (failsAs_ofArithmetic arithmetic).bind fun _ => failsAs_pure _
  | report =>
      have listed : ∀ selection, FailsAs IsInternal (Entry.list context.owner selection) :=
        fun _ => (failsAs_failAt crash).bind fun _ => failsAs_ledger.bind fun _ => failsAs_pure _
      refine failsAs_get.bind fun world => FailsAs.bind ?_ fun _ =>
        (failsAs_ofArithmetic arithmetic).bind fun _ => failsAs_pure _
      exact (failsAs_ofCalendar calendar).bind fun _ => (listed _).bind fun _ =>
        (failsAs_ofArithmetic arithmetic).bind fun _ =>
          (failsAs_ofArithmetic arithmetic).bind fun _ => failsAs_pure _
  | help => exact failsAs_pure _
  | malformed complaint => exact failsAs_pure _
  | freeText text =>
      simp only [answer]
      split
      · exact failsAs_postDraft
      · exact failsAs_pure _

/-- Whatever the user can mend is answered, so only other failures are left. -/
theorem failsAs_respond : FailsAs IsInternal (respond message rules) := by
  have crash : IsInternal .crash := rfl
  have tooLarge : IsInternal .idTooLarge := rfl
  have bound : FailsAs IsInternal (bindingOf message) := by
    unfold bindingOf
    split
    · exact .ite (failsAs_pure _) <| (failsAs_failAt crash).bind fun _ =>
        failsAs_ledger.bind fun _ => failsAs_pure _
    · exact failsAs_pure _
  have listed : ∀ owner limit, FailsAs IsInternal (Account.list owner limit) :=
    fun _ _ => (failsAs_failAt crash).bind fun _ => (failsAs_checkWord? tooLarge).bind fun _ =>
      failsAs_ledger.bind fun _ => failsAs_pure _
  have loaded : ∀ owner, FailsAs IsInternal (OwnerContext.load owner) :=
    fun _ => (listed _ _).bind fun _ =>
      (failsAs_ledger.bind fun _ => failsAs_pure _).bind fun _ => failsAs_pure _
  refine .ite (failsAs_pure _) (bound.bind fun binding => ?_)
  cases binding with
  | none => exact failsAs_pure _
  | some binding => exact (loaded _).bind fun _ => failsAs_answer

/-! ## Answers -/

/-- What an answer tells of a ledger: nothing has changed and nothing is confirmed, or what was
asked for is confirmed and posted. -/
inductive Tells (context : OwnerContext) (asked : Option EntryDraft) (today : Date)
    (before : Ledger) (text : String) : Ledger → Prop where
  | nothing (plain : ¬Wording.IsMarked text) : Tells context asked today before text before
  | posted {draft : EntryDraft} {account : Account} {cents : Int} {after : Ledger}
      (same : asked = some draft) (counted : draft.amount.IsCents cents) (positive : 0 < cents)
      (first : context.accounts.head? = some account)
      (spent : draft.Spent context.owner account today before after)
      (marked : Wording.IsMarked text) : Tells context asked today before text after

/-- An answer of a call that does not write tells that nothing has changed. -/
theorem tells_of_reads {Answer : Type} {call : Call Answer} {answer : Answer}
    {asked : Option EntryDraft} {text : String} (reads : Reads call)
    (run : call world = .ok answer after) (plain : ¬Wording.IsMarked text) :
    Tells context asked world.today world.ledger text after.ledger := by
  rw [(reads.of_ok run).ledger]
  exact .nothing plain

theorem postDraft_eq_ok (simple : draft.IsSimple)
    (run : postDraft context draft world = .ok reply after) :
    reply.status = 200
      ∧ Tells context (some draft) world.today world.ledger reply.text after.ledger := by
  unfold postDraft orTold at run
  rw [tryCatch_apply] at run
  cases posted : (do return { text := ← draft.post context } : Call Reply) world with
  | ok confirmed ended =>
      rw [posted] at run
      cases run
      rcases bind_eq_ok_iff.mp posted with ⟨text, last, post, rest⟩
      cases rest
      rcases simple.post_eq_ok post with ⟨cents, account, counted, positive, first, spent, rfl⟩
      exact ⟨rfl, .posted rfl counted positive first spent
        (Wording.isMarked_entryConfirmation _ _ _ _ _ _)⟩
  | error failure ended =>
      have restored : ended.ledger = world.ledger :=
        (draft.restores_post context).bind_pure _ posted
      rw [posted] at run
      cases family : failure.family with
      | internal =>
          simp only [family] at run
          cases run
      | refusal | storage | installments =>
          simp only [family] at run
          cases run
          rw [restored]
          exact ⟨rfl, .nothing (Wording.not_isMarked_failure failure)⟩

theorem answer_eq_ok (run : answer context rules intent world = .ok reply after) :
    reply.status = 200
      ∧ Tells context (intent.draft? context.categories rules) world.today world.ledger reply.text
        after.ledger := by
  cases intent with
  | addExpense amount description hint => exact postDraft_eq_ok ⟨rfl, rfl, rfl, rfl, rfl⟩ run
  | balance =>
      rcases bind_eq_ok_iff.mp run with ⟨text, middle, summed, last⟩
      cases last
      exact ⟨rfl, tells_of_reads (reads_ofArithmetic _) summed
        (Wording.not_isMarked_balanceSummary (ofArithmetic_eq_ok_iff.mp summed).1)⟩
  | report =>
      have reads : Reads (answer context rules .report) :=
        respects_get.bind fun _ => (MonthlyReport.reads_load _ _).bind fun _ =>
          (reads_ofArithmetic _).bind fun _ => respects_pure _
      rcases bind_eq_ok_iff.mp run with ⟨now, _, -, rest⟩
      rcases bind_eq_ok_iff.mp rest with ⟨report, _, -, written⟩
      rcases bind_eq_ok_iff.mp written with ⟨text, _, summed, last⟩
      have plain := Wording.not_isMarked_monthlyReport (ofArithmetic_eq_ok_iff.mp summed).1
      cases last
      exact ⟨rfl, tells_of_reads reads run plain⟩
  | help =>
      cases run
      exact ⟨rfl, .nothing Wording.not_isMarked_help⟩
  | malformed complaint =>
      cases run
      exact ⟨rfl, .nothing (Wording.not_isMarked_complaint complaint)⟩
  | freeText text =>
      simp only [answer] at run
      cases interpreted : interpret text context.categories rules with
      | error complaint =>
          simp only [interpreted] at run
          cases run
          exact ⟨rfl, .nothing (Wording.not_isMarked_complaint complaint)⟩
      | ok draft =>
          simp only [interpreted] at run
          have asked : (Intent.freeText text).draft? context.categories rules = some draft := by
            simp [Intent.draft?, interpreted, Except.toOption]
          rw [asked]
          exact postDraft_eq_ok (Intent.draft?_spec asked).1 run

/-- An answer that is not given leaves the ledger alone. -/
theorem restores_answer : Restores (answer context rules intent) := by
  have posted : ∀ draft, Restores (postDraft context draft) := by
    intro draft
    refine ((draft.restores_post context).bind_pure _).tryCatch fun failure => ?_
    split
    · exact respects_throw _
    · exact respects_pure _
  cases intent with
  | addExpense amount description hint => exact posted _
  | balance => exact Reads.restores ((reads_ofArithmetic _).bind fun _ => respects_pure _)
  | report =>
      exact Reads.restores (respects_get.bind fun _ => (MonthlyReport.reads_load _ _).bind fun _ =>
        (reads_ofArithmetic _).bind fun _ => respects_pure _)
  | help => exact Reads.restores (respects_pure _)
  | malformed complaint => exact Reads.restores (respects_pure _)
  | freeText text =>
      simp only [answer]
      split
      · exact posted _
      · exact Reads.restores (respects_pure _)

/-! ## Messages -/

/-- What a message that is confirmed has done: its chat speaks for an owner, it asks for an expense
of a positive number of cents, and the expense is posted to the first of the owner's accounts, with
one of the owner's categories of expenses or none. -/
inductive Posted (message : Message) (rules : List KeywordRule) (today : Date) (before : Ledger) :
    Ledger → Prop where
  | intro {binding : Binding} {draft : EntryDraft} {account : Account} {cents : Int}
      {after : Ledger} (bound : message.binding? before = some binding)
      (asked : (Intent.ofText message.trimmed).draft? (Category.allOf before binding.owner) rules
        = some draft)
      (counted : draft.amount.IsCents cents) (positive : 0 < cents)
      (first : (Account.activeOf before binding.owner).head? = some account)
      (found : (before.accounts.map Account.id).Nodup →
        before.account? binding.owner account.id = some account)
      (category : ∀ category ∈ draft.category, category ∈ before.categories
        ∧ category.owner = binding.owner ∧ category.kind = .expense)
      (spent : draft.Spent binding.owner account today before after) :
      Posted message rules today before after

theorem bindingOf_eq_ok {bound : Option Binding}
    (run : bindingOf message world = .ok bound after) :
    bound = message.binding? world.ledger := by
  unfold bindingOf at run
  unfold Message.binding?
  cases chat_eq : message.chat with
  | none =>
      simp only [chat_eq] at run
      cases run
      rfl
  | some chat =>
      simp only [chat_eq] at run
      by_cases nameless : chat = ""
      · rw [if_pos nameless] at run
        cases run
        simp [nameless]
      · rw [if_neg nameless] at run
        simp [nameless, Binding.find_eq_ok run]

/-- The first account that is listed is found by its number where numbers are not given twice. -/
theorem account?_of_activeOf {ledger : Ledger} {owner : String} {account : Account}
    (member : account ∈ Account.activeOf ledger owner)
    (distinct : (ledger.accounts.map Account.id).Nodup) :
    ledger.account? owner account.id = some account := by
  rcases List.mem_filter.mp (List.mem_mergeSort.mp member) with ⟨here, admitted⟩
  simp only [decide_eq_true_eq] at admitted
  rw [← admitted.1]
  exact Ledger.account?_of_mem distinct here

/-- What is told an owner's chat is posted for the owner. -/
theorem Tells.posted_or_eq {binding : Binding} {ledger later : Ledger} {today : Date}
    (bound : message.binding? ledger = some binding)
    (tells : Tells ⟨binding.owner, Account.limited (some OwnerContext.pageSize)
        (Account.activeOf ledger binding.owner), Category.allOf ledger binding.owner⟩
      ((Intent.ofText message.trimmed).draft? (Category.allOf ledger binding.owner) rules) today
      ledger reply.text later) :
    later = ledger ∧ ¬Wording.IsMarked reply.text
      ∨ Wording.IsMarked reply.text ∧ Posted message rules today ledger later := by
  cases tells with
  | nothing plain => exact .inl ⟨rfl, plain⟩
  | @posted draft account cents _ same counted positive first spent marked =>
      right
      have newest : (Account.activeOf ledger binding.owner).head? = some account := by
        simpa [Account.limited, OwnerContext.pageSize, List.head?_take] using first
      refine ⟨marked, .intro bound same counted positive newest ?_ ?_ spent⟩
      · exact account?_of_activeOf (List.mem_of_head? newest)
      · intro category chosen
        rcases (Intent.draft?_spec same).2 category chosen with ⟨member, expense⟩
        rcases List.mem_filter.mp (List.mem_mergeSort.mp member) with ⟨here, owned⟩
        exact ⟨here, of_decide_eq_true owned, expense⟩

/-- A text that is answered is turned away, or answered for the owner that its chat is bound to,
with what the owner has at hand. -/
theorem respondWith_eq_ok {text : List Char} {bound : Call (Option Binding)}
    {answer : OwnerContext → Call Reply} (reads : Reads bound)
    (run : respondWith text bound answer world = .ok reply after) :
    ((text = [] ∨ ∃ looked, bound world = .ok none looked) ∧ reply.status = 400
      ∧ after.ledger = world.ledger ∧ ¬Wording.IsMarked reply.text)
    ∨ text ≠ [] ∧ ∃ binding looked begun, bound world = .ok (some binding) looked
      ∧ world.Rests begun
      ∧ answer ⟨binding.owner, Account.limited (some OwnerContext.pageSize)
          (Account.activeOf world.ledger binding.owner), Category.allOf world.ledger binding.owner⟩
          begun = .ok reply after := by
  by_cases blank : text = []
  · rw [respondWith, if_pos blank] at run
    cases run
    exact .inl ⟨.inl blank, rfl, rfl, Wording.not_isMarked_ofList_cons (by decide)⟩
  · rw [respondWith, if_neg blank] at run
    rcases bind_eq_ok_iff.mp run with ⟨found, looked, look, rest⟩
    -- Neither looking up the chat nor loading the context changes what the answer starts from.
    have rests := reads.of_ok look
    cases found with
    | none =>
        cases rest
        exact .inl ⟨.inr ⟨_, look⟩, rfl, rests.ledger,
          Wording.not_isMarked_ofList_cons (by decide)⟩
    | some binding =>
        rcases bind_eq_ok_iff.mp rest with ⟨context, loaded, load, last⟩
        have kept := rests.trans ((OwnerContext.reads_load _).of_ok load)
        rw [OwnerContext.load_eq_ok load, rests.ledger] at last
        exact .inr ⟨blank, binding, looked, loaded, look, kept, last⟩

theorem respond_eq_ok (run : respond message rules world = .ok reply after) :
    reply.status =
      (if message.trimmed = [] ∨ message.binding? world.ledger = none then 400 else 200)
    ∧ (after.ledger = world.ledger ∧ ¬Wording.IsMarked reply.text
      ∨ reply.status = 200 ∧ Wording.IsMarked reply.text
        ∧ Posted message rules world.today world.ledger after.ledger) := by
  rcases respondWith_eq_ok (reads_bindingOf message) run with
    ⟨turned, status, same, plain⟩ | ⟨text, binding, looked, begun, look, rests, last⟩
  · have away : message.trimmed = [] ∨ message.binding? world.ledger = none :=
      turned.imp_right fun ⟨_, look⟩ => (bindingOf_eq_ok look).symm
    exact ⟨by rw [status, if_pos away], .inl ⟨same, plain⟩⟩
  · have bound := (bindingOf_eq_ok look).symm
    have here : ¬(message.trimmed = [] ∨ message.binding? world.ledger = none) := by
      rintro (blank | unbound)
      · exact text blank
      · rw [bound] at unbound
        cases unbound
    rcases answer_eq_ok last with ⟨status, tells⟩
    rw [rests.ledger, rests.today] at tells
    refine ⟨by rw [status, if_neg here], ?_⟩
    rcases tells.posted_or_eq bound with same | ⟨marked, posted⟩
    · exact .inl same
    · exact .inr ⟨status, marked, posted⟩

theorem restores_respondWith {text : List Char} {bound : Call (Option Binding)}
    {answer : OwnerContext → Call Reply} (reads : Reads bound)
    (restores : ∀ context, Restores (answer context)) :
    Restores (respondWith text bound answer) := by
  refine Restores.ite (Reads.restores (respects_pure _)) (reads.bind_restores fun binding => ?_)
  cases binding with
  | none => exact Reads.restores (respects_pure _)
  | some binding => exact (OwnerContext.reads_load _).bind_restores fun _ => restores _

theorem restores_respond : Restores (respond message rules) :=
  restores_respondWith (reads_bindingOf message) fun _ => restores_answer

/-- Every message is answered. -/
theorem exists_handle_eq_ok (message : Message) (rules : List KeywordRule) (world : World) :
    ∃ reply after, handle message rules world = .ok reply after := by
  have sure : FailsAs (fun _ => False) (handle message rules) :=
    failsAs_tryCatch fun _ => failsAs_pure _
  exact sure.exists_eq_ok world

/-- What is posted changes the ledger. -/
theorem Posted.ne {today : Date} {before later : Ledger}
    (posted : Posted message rules today before later) : later ≠ before := by
  rcases posted with ⟨-, -, -, -, -, -, -, spent⟩
  rcases spent with ⟨-, -, -, -⟩
  intro same
  have longer := congrArg (fun ledger => ledger.entries.length) same
  simp [Ledger.setBalance] at longer

/-- A message that changes the ledger has been posted. -/
theorem posted_of_handle_eq_ok (run : handle message rules world = .ok reply after)
    (changed : after.ledger ≠ world.ledger) :
    Posted message rules world.today world.ledger after.ledger := by
  unfold handle orDefect at run
  rw [tryCatch_apply] at run
  cases responded : respond message rules world with
  | ok answered ended =>
      rw [responded] at run
      cases run
      rcases (respond_eq_ok responded).2 with ⟨same, -⟩ | ⟨-, -, posted⟩
      · exact absurd same changed
      · exact posted
  | error failure ended =>
      rw [responded] at run
      cases run
      exact absurd (restores_respond responded) changed

/-- Every message is answered, wherever storage fails.  The ledger changes exactly when the answer
is a confirmation, and then one expense was posted.  A message that is blank or from an unknown chat
is turned away, and what goes wrong beyond that is no refusal and no failed write. -/
theorem handle_changes_iff_confirms (message : Message) (rules : List KeywordRule)
    (world : World) :
    ∃ reply after, handle message rules world = .ok reply after
      ∧ (after.ledger ≠ world.ledger ↔ Wording.IsMarked reply.text)
      ∧ (after.ledger ≠ world.ledger → reply.status = 200
          ∧ Posted message rules world.today world.ledger after.ledger)
      ∧ reply.status =
          (if message.trimmed = [] then 400
          else match (respond message rules).answer world with
            | .error _ => 500
            | .ok _ => if message.binding? world.ledger = none then 400 else 200)
      ∧ ∀ failure, (respond message rules).answer world = .error failure →
          failure.family = .internal := by
  unfold handle orDefect Call.answer
  rw [tryCatch_apply]
  cases run : respond message rules world with
  | ok reply after =>
      rcases respond_eq_ok run with ⟨status, outcome⟩
      refine ⟨reply, after, rfl, ?_, ?_, ?_, by simp⟩
      · rcases outcome with ⟨same, plain⟩ | ⟨-, marked, posted⟩
        · simp [same, plain]
        · simp [marked, posted.ne]
      · intro changed
        rcases outcome with ⟨same, -⟩ | ⟨fine, -, posted⟩
        · exact absurd same changed
        · exact ⟨fine, posted⟩
      · rw [status]
        by_cases blank : message.trimmed = [] <;> simp [blank]
  | error failure after =>
      have restored := restores_respond run
      have plain : ¬Wording.IsMarked Wording.internalError :=
        Wording.not_isMarked_ofList_cons (by decide)
      have text : message.trimmed ≠ [] := by
        intro blank
        have told : respond message rules
            = return { text := Wording.noMessageText, status := 400 } := if_pos blank
        rw [told] at run
        cases run
      refine ⟨_, _, rfl, ?_, ?_, by simp [text], ?_⟩
      · simp [restored, plain]
      · exact fun changed => absurd restored changed
      · rintro _ ⟨⟩
        exact failsAs_respond run

end Cashbook.Chat
