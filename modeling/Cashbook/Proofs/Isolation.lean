import Cashbook.Proofs.Isolation.Services

/-!
# Owners do not see each other

What an owner is told depends on the owner's own rows only, and what is done for an owner changes no
row of anybody else.  An account of somebody else is as good as none.
-/

namespace Cashbook

open Call Money

variable {owner : String} {before after : Ledger}

/-! ## Rows of others -/

namespace Ledger

/-- Are the rows of everybody but one owner left as they were? -/
def SparesOthers (owner : String) (before after : Ledger) : Prop :=
  after.only (· ≠ owner) = before.only (· ≠ owner)

theorem sparesOthers_setBalance (ledger : Ledger) (owner : String) (id : Int) (balance : Stored) :
    ledger.SparesOthers owner (ledger.setBalance owner id balance) := by
  unfold SparesOthers
  rw [only_setBalance]
  -- Among the accounts of others there is none whose balance could be set.
  have kept : ∀ account ∈ (ledger.only (· ≠ owner)).accounts,
      (if account.id = id ∧ account.owner = owner then { account with balance := balance }
        else account) = account := by
    intro account member
    have other := of_decide_eq_true (List.mem_filter.mp member).2
    exact if_neg fun here => other here.2
  rw [setBalance, List.map_congr_left kept, List.map_id']

/-- New rows of an owner are no rows of others. -/
theorem sparesOthers_append (ledger : Ledger) {entries : List Entry} {transfers : List Transfer}
    (own_entries : ∀ entry ∈ entries, entry.owner = owner)
    (own_transfers : ∀ transfer ∈ transfers, transfer.owner = owner) :
    ledger.SparesOthers owner { ledger with
      entries := ledger.entries ++ entries
      transfers := ledger.transfers ++ transfers } := by
  have no_entries : (entries.filter fun entry => entry.owner ≠ owner) = [] := by
    simpa [List.filter_eq_nil_iff] using own_entries
  have no_transfers : (transfers.filter fun transfer => transfer.owner ≠ owner) = [] := by
    simpa [List.filter_eq_nil_iff] using own_transfers
  unfold SparesOthers only
  rw [List.filter_append, List.filter_append, no_entries, no_transfers, List.append_nil,
    List.append_nil]

/-- The ledger without the accounts of a number. -/
def withoutAccount (ledger : Ledger) (id : Int) : Ledger :=
  { ledger with accounts := ledger.accounts.filter fun account => account.id ≠ id }

/-- Where a number is no account of an owner, the owner's rows are shared without it. -/
theorem shares_withoutAccount {ledger : Ledger} {id : Int}
    (foreign : ∀ account ∈ ledger.accounts, account.id = id → account.owner ≠ owner) :
    ledger.Shares owner (ledger.withoutAccount id) := by
  refine ⟨rfl, ?_, rfl, rfl⟩
  simp only [only, withoutAccount, List.filter_filter]
  apply List.filter_congr
  intro account member
  by_cases own : account.owner = owner
  · have other : account.id ≠ id := fun here => foreign account member here own
    simp [own, other]
  · simp [own]

end Ledger

theorem EntryDraft.Spent.sparesOthers {draft : EntryDraft} {account : Account} {today : Date}
    (spent : draft.Spent owner account today before after) : before.SparesOthers owner after := by
  cases spent with
  | @intro id holder amount left new stored held left_eq =>
    have appended := @Ledger.sparesOthers_append owner before
      [draft.simpleRow id owner amount today account.id] [] (by simp [simpleRow]) (by simp)
    rw [List.append_nil] at appended
    exact (Ledger.sparesOthers_setBalance _ _ _ _).trans appended

theorem Transfer.Effect.sparesOthers {movement : Movement} {description : String} {date : Date}
    {id : Int} (effect : Effect movement description date before id after) :
    before.SparesOthers movement.owner after := by
  cases effect with
  | intro source_found stored covered debited target_found credited =>
    refine (Ledger.sparesOthers_append _ ?_ ?_).trans <|
      (Ledger.sparesOthers_setBalance _ _ _ _).trans (Ledger.sparesOthers_setBalance _ _ _ _)
    · simp [side]
    · simp

/-! ## Chats -/

namespace Chat

variable {message : Message} {rules : List KeywordRule} {world after : World} {reply : Reply}

/-- A message changes no row of anybody but the owner that its chat speaks for. -/
theorem sparesOthers_handle (own : ∀ binding ∈ message.binding? world.ledger, binding.owner = owner)
    (run : handle message rules world = .ok reply after) :
    world.ledger.SparesOthers owner after.ledger := by
  unfold handle orDefect at run
  rw [tryCatch_apply] at run
  cases responded : respond message rules world with
  | ok answered ended =>
      rw [responded] at run
      cases run
      rcases (respond_eq_ok responded).2 with ⟨same, -⟩ | ⟨-, -, posted⟩
      · rw [same]
        exact rfl
      · rcases posted with ⟨bound, -, -, -, -, -, -, spent⟩
        rw [← own _ bound]
        exact spent.sparesOthers
  | error failure ended =>
      rw [responded] at run
      cases run
      rw [restores_respond responded]
      exact rfl

/-- Where chats are bound once, a chat speaks for the owner of its binding. -/
theorem Message.binding?_of_mem {ledger : Ledger} {binding : Binding}
    (distinct : (ledger.bindings.map Binding.chat).Nodup) (member : binding ∈ ledger.bindings)
    (active : binding.active = true) (from_chat : message.chat = some binding.chat) :
    message.binding? ledger = if binding.chat = "" then none else some binding := by
  have found : (ledger.bindings.find? fun other => other.chat = binding.chat ∧ other.active)
      = some binding := by
    cases look : ledger.bindings.find? fun other => other.chat = binding.chat ∧ other.active with
    | none =>
        have missed := List.find?_eq_none.mp look binding member
        simp [active] at missed
    | some other =>
        have admitted := List.find?_some look
        simp only [decide_eq_true_eq] at admitted
        rw [List.inj_on_of_nodup_map distinct (List.mem_of_find?_eq_some look) member admitted.1]
  unfold binding?
  rw [from_chat]
  exact congrArg (ite (binding.chat = "") none) found

/-- A chat that is bound to an owner whose rows agree is answered on rows that agree. -/
theorem Message.agrees_of_mem {first second : Ledger} {binding : Binding}
    (agrees : first.Agrees owner second) (member : binding ∈ first.bindings)
    (own : binding.owner = owner) (active : binding.active = true)
    (from_chat : message.chat = some binding.chat)
    (distinct : (first.bindings.map Binding.chat).Nodup)
    (other_distinct : (second.bindings.map Binding.chat).Nodup) :
    message.Agrees owner first second := by
  have other_member : binding ∈ second.bindings := by
    have shared : binding ∈ (second.only (· = owner)).bindings := by
      rw [agrees.bindings]
      exact List.mem_filter.mpr ⟨member, decide_eq_true own⟩
    exact (List.mem_filter.mp shared).1
  have bound := binding?_of_mem distinct member active from_chat
  refine ⟨agrees, ?_, ?_⟩
  · rw [bound, binding?_of_mem other_distinct other_member active from_chat]
  · rw [bound]
    intro found same
    split_ifs at same
    · cases same
    · rw [← Option.some.inj same, own]

/-- A chat that speaks for an owner whose rows agree is told the same, and nobody else's rows have
changed. -/
theorem handle_alike (message : Message) (rules : List KeywordRule) {other : Ledger}
    (faultless : world.fault = none) (agrees : message.Agrees owner world.ledger other) :
    ∃ reply after otherAfter,
      handle message rules world = .ok reply after
      ∧ handle message rules { world with ledger := other } = .ok reply otherAfter
      ∧ world.ledger.SparesOthers owner after.ledger
      ∧ other.SparesOthers owner otherAfter.ledger := by
  have alike := parallel_handle message rules (World.beside_of_faultless faultless agrees)
  have other_own : ∀ binding ∈ message.binding? other, binding.owner = owner := by
    rw [agrees.bound]
    exact agrees.own
  rcases exists_handle_eq_ok message rules world with ⟨reply, after, run⟩
  rcases exists_handle_eq_ok message rules { world with ledger := other } with
    ⟨otherReply, otherAfter, other_run⟩
  rw [run, other_run] at alike
  cases alike with
  | ok same beside =>
      subst same
      exact ⟨reply, after, otherAfter, run, other_run, sparesOthers_handle agrees.own run,
        sparesOthers_handle other_own other_run⟩

end Chat

/-! ## Requests for transfers -/

namespace Http

variable {room : Nat} {tokens : ApiTokens} {request : Request} {world : World}
  {first second : Response}

/-- What is moved for the bearer of a token is the owner's. -/
theorem Moves.sparesOthers {response : Response} {today : Date}
    (bearer : authenticate tokens request = .ok owner)
    (moves : Moves room tokens request today before response after) :
    before.SparesOthers owner after := by
  rcases moves with ⟨carried, known, -, -, -, effect⟩
  rcases authenticate_eq_ok bearer with ⟨token, same_carried, same_known⟩
  rw [carried] at same_carried
  rw [← Option.some.inj same_carried, known] at same_known
  rw [← Option.some.inj same_known]
  exact effect.sparesOthers

/-- What a request makes of the ledger: it is unchanged, or the transfer under the next number is
told and nobody else's rows have changed. -/
theorem requestTransfer_cases (room : Nat) (world : World) (faultless : world.fault = none)
    (bearer : authenticate tokens request = .ok owner) :
    world.ledger.SparesOthers owner ((requestTransfer room tokens request).worldAfter world).ledger
    ∧ ∀ response after, requestTransfer room tokens request world = .ok response after →
        response.status = 200 →
        response = transferResponse (Ledger.nextId (world.ledger.transfers.map Transfer.id)) := by
  by_cases readable : ∀ container, Json.readBytes room request.body ≠ .error (.tooDeep container)
  · rcases @requestTransfer_outcome world room tokens request readable
      (World.point_ne_of_faultless faultless _) (World.point_ne_of_faultless faultless _)
      with ⟨response, after, run, outcome⟩
    rw [worldAfter_of_ok run, run]
    rcases outcome with moves | ⟨refused, unchanged⟩
    · refine ⟨moves.sparesOthers bearer, ?_⟩
      rintro _ _ ⟨⟩ -
      exact moves.response_eq
    · refine ⟨by rw [unchanged]; exact rfl, ?_⟩
      rintro _ _ ⟨⟩ done
      exact absurd done refused
  · rcases not_forall_not.mp readable with ⟨container, deep⟩
    have failed := requestTransfer_of_tooDeep tokens world deep
    rw [worldAfter_of_error failed, failed]
    exact ⟨rfl, by rintro _ _ ⟨⟩⟩

/-- On ledgers with the same next number the responses are the same. -/
theorem SameButNumber.eq_of_told {id : Int} (same : SameButNumber first second)
    (told : first.status = 200 → first = transferResponse id)
    (other_told : second.status = 200 → second = transferResponse id) : first = second := by
  rcases same with equal | ⟨number, other, rfl, rfl⟩
  · exact equal
  · rw [told rfl, other_told rfl]

end Http

/-- What an owner is told, in a chat or about a transfer, depends on the owner's own rows only, but
for the number of a new transfer; and it leaves the rows of all others alone.  In particular an
account of somebody else is answered like one that is not there. -/
theorem answers_depend_on_own_rows {world : World} {other : Ledger}
    (faultless : world.fault = none) (agrees : world.ledger.Agrees owner other) :
    (∀ (message : Chat.Message) (rules : List Chat.KeywordRule) (binding : Binding),
      binding ∈ world.ledger.bindings → binding.owner = owner → binding.active = true →
      message.chat = some binding.chat →
      (world.ledger.bindings.map Binding.chat).Nodup → (other.bindings.map Binding.chat).Nodup →
      ∃ reply after otherAfter,
        Chat.handle message rules world = .ok reply after
        ∧ Chat.handle message rules { world with ledger := other } = .ok reply otherAfter
        ∧ world.ledger.SparesOthers owner after.ledger
        ∧ other.SparesOthers owner otherAfter.ledger)
    ∧ ∀ (room : Nat) (tokens : ApiTokens) (headers : Named (List UInt8)) (body : List UInt8),
      Http.authenticate tokens (.ofTransfer headers body) = .ok owner →
      EndsAlike Http.SameButNumber
        (fun after otherAfter => world.ledger.SparesOthers owner after.ledger
          ∧ other.SparesOthers owner otherAfter.ledger)
        (Http.answer room tokens (.ofTransfer headers body) world)
        (Http.answer room tokens (.ofTransfer headers body) { world with ledger := other })
      ∧ ∀ id, (∀ account ∈ world.ledger.accounts, account.id = id → account.owner ≠ owner) →
        EndsAlike Eq (fun _ _ => True)
          (Http.answer room tokens (.ofTransfer headers body) world)
          (Http.answer room tokens (.ofTransfer headers body)
            { world with ledger := world.ledger.withoutAccount id }) := by
  constructor
  · intro message rules binding member own active from_chat distinct other_distinct
    exact Chat.handle_alike message rules faultless
      (Chat.Message.agrees_of_mem agrees member own active from_chat distinct other_distinct)
  · intro room tokens headers body bearer
    simp only [Http.answer_ofTransfer]
    have told := Http.requestTransfer_cases room world faultless bearer
    constructor
    · have alike := Http.parallel_requestTransfer room bearer
        (World.beside_of_faultless faultless agrees.toShares)
      have other_told := Http.requestTransfer_cases room { world with ledger := other }
        faultless bearer
      exact alike.with_runs (fun _ _ _ _ _ _ same => same) ⟨told.1, other_told.1⟩
    · intro id foreign
      have alike := Http.parallel_requestTransfer room bearer
        (World.beside_of_faultless faultless (Ledger.shares_withoutAccount foreign))
      have other_told := Http.requestTransfer_cases room
        { world with ledger := world.ledger.withoutAccount id } faultless bearer
      refine alike.with_runs ?_ trivial
      intro response otherResponse after otherAfter run other_run same
      exact same.eq_of_told (told.2 _ _ run) (other_told.2 _ _ other_run)

/-- The savings of Ana, who has a chat, next to the wallet of Bruno. -/
def neighbours : World :=
  let shared := Http.savings.run [.create "bruno" "Carteira" .wallet (.ofCents false 700)]
  { shared with ledger := { shared.ledger with
      bindings := [⟨1, "ana", "7", true⟩, ⟨2, "bruno", "8", true⟩] } }

/-- The same without Bruno. -/
def alone : Ledger :=
  { Http.savings.ledger with bindings := [⟨1, "ana", "7", true⟩] }

/-- Some reais are to go to the wallet, which is the third account. -/
def giftBody : List UInt8 :=
  "\x7b\"from_account\": 1, \"to_account\": 3, \"amount\": 5\x7d".toUTF8.toList

/-- Ana's balances are told as if Bruno were not there, and she cannot find out about his wallet. -/
theorem answers_depend_on_own_rows_neighbours :
    (∃ reply after otherAfter,
      Chat.handle ⟨some "7", some "/saldo"⟩ Chat.defaultRules neighbours = .ok reply after
      ∧ Chat.handle ⟨some "7", some "/saldo"⟩ Chat.defaultRules { neighbours with ledger := alone }
        = .ok reply otherAfter)
    ∧ EndsAlike Eq (fun _ _ => True)
      (Http.answer 1 [("segredo", "ana")] (.ofTransfer Http.savingsHeaders giftBody) neighbours)
      (Http.answer 1 [("segredo", "ana")] (.ofTransfer Http.savingsHeaders giftBody)
        { neighbours with ledger := neighbours.ledger.withoutAccount 3 }) := by
  have faultless : neighbours.fault = none := by decide +kernel
  have agrees : neighbours.ledger.Agrees "ana" alone := by
    refine ⟨⟨?_, ?_, ?_, ?_⟩, ?_⟩ <;> decide +kernel
  have bearer : Http.authenticate [("segredo", "ana")] (.ofTransfer Http.savingsHeaders giftBody)
      = .ok "ana" := by decide +kernel
  have told := answers_depend_on_own_rows faultless agrees
  constructor
  · rcases told.1 ⟨some "7", some "/saldo"⟩ Chat.defaultRules ⟨1, "ana", "7", true⟩
      (by decide +kernel) rfl rfl rfl (by decide +kernel) (by decide +kernel)
      with ⟨reply, after, otherAfter, run, other_run, -⟩
    exact ⟨reply, after, otherAfter, run, other_run⟩
  · exact (told.2 1 _ _ _ bearer).2 3 (by decide +kernel)

end Cashbook
