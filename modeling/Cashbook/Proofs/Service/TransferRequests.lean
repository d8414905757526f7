import Cashbook.Proofs.Json.Nesting
import Cashbook.Proofs.Posting.Refusals
import Cashbook.Proofs.Services

/-!
# Requests for transfers

A request for a transfer moves money exactly when it is answered with the status 200, and only for
the owner whose token it bears.  What is wrong with a request is told in a fixed order: first what
its body says, then whom it comes from, then what the ledger says.
-/

namespace Cashbook

open Call Money

/-! ## Places where nothing shows -/

namespace World

/-- Is no request about to run out of time? -/
def IsPunctual (world : World) : Prop :=
  ∀ fault, world.fault = some fault → fault.point ≠ .slowOpening

variable {before after : World}

theorem Follows.isPunctual (follows : before.Follows after) (punctual : before.IsPunctual) :
    after.IsPunctual :=
  follows.point_ne punctual

end World

/-! ## What requests say -/

/-- Is the description of a transfer one that cannot be written? -/
def TransferBody.IsTorn (body : TransferBody) : Prop :=
  body.description.mapM LooseText.whole? = none

instance (body : TransferBody) : Decidable body.IsTorn :=
  inferInstanceAs (Decidable (_ = none))

/-- The amount of a body is finite. -/
theorem TransferBody.isFinite_of_ofJson? {value : Json} {body : TransferBody}
    (read : TransferBody.ofJson? value = some body) : body.amount.isFinite = true := by
  have amounts : ∀ {given : Json} {amount : Decimal}, amountOf? given = some amount →
      amount.isFinite = true := by
    intro given amount amount_read
    rcases Option.bind_eq_some_iff.mp amount_read with ⟨same, -, admitted⟩
    split_ifs at admitted with finite
    obtain rfl := Option.some.inj admitted
    exact finite.1
  unfold TransferBody.ofJson? at read
  simp only [bind, Option.bind_eq_some_iff] at read
  obtain ⟨_, -, source, -, _, -, target, -, _, -, amount, amount_read, description, -, made⟩ := read
  cases made
  exact amounts amount_read

namespace Http

variable {room : Nat} {tokens : ApiTokens} {request : Request} {body : TransferBody}
  {owner : String} {response : Response} {world after : World}

/-- The transfer that the body of a request asks for. -/
def Request.transfer? (room : Nat) (request : Request) : Option TransferBody :=
  match Json.readBytes room request.body with
  | .ok value => TransferBody.ofJson? value
  | .error _ => none

theorem Request.isFinite_of_transfer? (asked : request.transfer? room = some body) :
    body.amount.isFinite = true := by
  unfold transfer? at asked
  split at asked
  · exact TransferBody.isFinite_of_ofJson? asked
  · cases asked

/-- A body that does not nest too deep is read, and what it asks for is a transfer or nothing. -/
theorem exists_bodyOf_eq
    (readable : ∀ container, Json.readBytes room request.body ≠ .error (.tooDeep container)) :
    ∃ value, bodyOf room request = pure value
      ∧ value.bind TransferBody.ofJson? = request.transfer? room := by
  unfold bodyOf Request.transfer?
  cases read : Json.readBytes room request.body with
  | ok value => exact ⟨some value, rfl, rfl⟩
  | error error =>
      cases error with
      | malformed => exact ⟨none, rfl, rfl⟩
      | tooDeep container => exact absurd read (readable container)

/-- A request is answered by its body first, then by its bearer, and only then asks the ledger. -/
theorem requestTransfer_eq
    (readable : ∀ container, Json.readBytes room request.body ≠ .error (.tooDeep container)) :
    requestTransfer room tokens request =
      match request.transfer? room with
      | none => pure (.error 400 invalidParameters)
      | some body =>
          if body.amount.value ≤ 0 then pure (.error 400 Failure.amountNotPositive.message)
          else if body.source = body.target then pure (.error 400 Failure.sameAccount.message)
          else
            match authenticate tokens request with
            | .error message => pure (.error 401 message)
            | .ok owner => transferFor owner body := by
  rcases exists_bodyOf_eq readable with ⟨value, body_read, asked_eq⟩
  unfold requestTransfer
  rw [body_read, pure_bind, asked_eq]
  cases asked : request.transfer? room with
  | none => rfl
  | some body =>
      -- An amount that was read is finite, so that its sign can always be told.
      have sign : ofArithmetic body.amount.isNotPositive
          = (pure (decide (body.amount.value ≤ 0)) : Call Bool) := by
        rw [Decimal.isNotPositive_of_isFinite (Request.isFinite_of_transfer? asked), ofArithmetic]
      dsimp only
      rw [sign, pure_bind]
      by_cases small : body.amount.value ≤ 0
      · rw [if_pos small, decide_eq_true small]
        exact if_pos rfl
      · rw [if_neg small, decide_eq_false small]
        exact if_neg Bool.false_ne_true

/-- A body that nests too deep gets no answer. -/
theorem requestTransfer_of_tooDeep {container : Json.Container} (tokens : ApiTokens) (world : World)
    (deep : Json.readBytes room request.body = .error (.tooDeep container)) :
    requestTransfer room tokens request world = .error (.nestedTooDeep container) world := by
  have failed : bodyOf room request world = .error (.nestedTooDeep container) world := by
    rw [bodyOf, deep]
    rfl
  exact bind_of_error failed

/-! ## What becomes of the ledger -/

theorem status_failureResponse_ne (failure : Failure) : (failureResponse failure).status ≠ 200 := by
  unfold failureResponse
  cases failure.family with
  | refusal =>
      change (if failure = .accountsNotOwned then 403 else 400) ≠ 200
      split_ifs <;> decide
  | storage | installments | internal => exact (by decide : 500 ≠ 200)

/-- Whatever becomes of a transfer, there is an answer. -/
theorem exists_transferFor_eq_ok (owner : String) (body : TransferBody) (world : World) :
    ∃ response after, transferFor owner body world = .ok response after := by
  have sure : FailsAs (fun _ => False) (transferFor owner body) :=
    failsAs_tryCatch fun failure => failsAs_pure _
  exact sure.exists_eq_ok world

/-- Work that is done within the deadline is done. -/
theorem withinDeadline_eq_ok {Answer : Type} {work : Call Answer} {answer : Option Answer}
    (punctual : world.IsPunctual) (run : withinDeadline work world = .ok answer after) :
    ∃ done begun, answer = some done ∧ world.Rests begun ∧ work begun = .ok done after := by
  rcases bind_eq_ok_iff.mp run with ⟨_, opened, opening, rest⟩
  have rests := (reads_failAt _ _).of_ok opening
  have prompt := visit_of_point_ne (rests.isPunctual punctual)
  rw [bind_of_ok prompt] at rest
  rcases bind_eq_ok_iff.mp rest with ⟨done, ended, worked, last⟩
  cases last
  exact ⟨done, opened, rfl, rests, worked⟩

/-- Money that has been moved for a body had a description that can be written. -/
theorem moveFor_eq_ok {id : Int} (raceless : world.IsRaceless)
    (run : moveFor owner body world = .ok id after) :
    ∃ description, body.description.mapM LooseText.whole? = some description
      ∧ Transfer.Effect ⟨owner, body.source, body.target, body.amount⟩
          (Movement.describe description) world.today world.ledger id after.ledger := by
  unfold moveFor at run
  cases whole : body.description.mapM LooseText.whole? with
  | none =>
      rw [whole] at run
      exact absurd run (Movement.requestTorn_ne_ok raceless)
  | some description =>
      rw [whole] at run
      rcases Movement.request_eq_ok run with ⟨amount, checked, same, valid, done⟩
      cases same
      rcases Movement.validate_eq_ok valid with ⟨rfl, -⟩
      exact ⟨description, rfl, Transfer.effect_of_execute_eq_ok raceless done⟩

/-- A transfer that is answered is done, or nothing has changed. -/
theorem transferFor_eq_ok (raceless : world.IsRaceless) (punctual : world.IsPunctual)
    (run : transferFor owner body world = .ok response after) :
    (∃ id description, response = transferResponse id
      ∧ body.description.mapM LooseText.whole? = some description
      ∧ Transfer.Effect ⟨owner, body.source, body.target, body.amount⟩
          (Movement.describe description) world.today world.ledger id after.ledger)
    ∨ response.status ≠ 200 ∧ after.ledger = world.ledger := by
  unfold transferFor at run
  rw [tryCatch_apply] at run
  split at run
  next answered ended moved =>
    cases run
    rcases bind_eq_ok_iff.mp moved with ⟨answer, last, within, told⟩
    rcases withinDeadline_eq_ok punctual within with ⟨id, begun, rfl, rests, done⟩
    cases told
    rcases moveFor_eq_ok (rests.isRaceless raceless) done with ⟨description, whole, effect⟩
    rw [rests.today, rests.ledger] at effect
    exact .inl ⟨id, description, rfl, whole, effect⟩
  next failure ended failed =>
    cases run
    right
    refine ⟨status_failureResponse_ne failure, ?_⟩
    have atomic := atomic_withinDeadline (atomic_moveFor owner body)
    refine Atomic.ledger_of_error ?_ raceless failed
    exact atomic.bind_sure fun id => by cases id <;> exact ⟨_, rfl⟩

/-- What a request that is answered with success has done: for the owner whose token it bears, the
transfer that its body asks for. -/
inductive Moves (room : Nat) (tokens : ApiTokens) (request : Request) (today : Date)
    (before : Ledger) (response : Response) : Ledger → Prop where
  | intro {token owner : String} {body : TransferBody} {description : Option String} {id : Int}
      {after : Ledger}
      (bearer : Bearer.token? (request.header? "authorization") = some token)
      (known : tokens.owner? token = some owner)
      (asked : request.transfer? room = some body)
      (whole : body.description.mapM LooseText.whole? = some description)
      (answered : response = transferResponse id)
      (effect : Transfer.Effect ⟨owner, body.source, body.target, body.amount⟩
        (Movement.describe description) today before id after) :
      Moves room tokens request today before response after

theorem authenticate_eq_ok (run : authenticate tokens request = .ok owner) :
    ∃ token, Bearer.token? (request.header? "authorization") = some token
      ∧ tokens.owner? token = some owner := by
  unfold authenticate at run
  cases bearer : Bearer.token? (request.header? "authorization") with
  | none => simp [bearer] at run
  | some token =>
      cases known : tokens.owner? token with
      | none => simp [bearer, known] at run
      | some same =>
          simp only [bearer, known, Except.ok.injEq] at run
          exact ⟨token, rfl, run ▸ known⟩

/-- A request whose body can be read is answered: it has moved money, or nothing has changed. -/
theorem requestTransfer_outcome (room : Nat) (tokens : ApiTokens) (request : Request)
    (readable : ∀ container, Json.readBytes room request.body ≠ .error (.tooDeep container))
    (raceless : world.IsRaceless) (punctual : world.IsPunctual) :
    ∃ response after, requestTransfer room tokens request world = .ok response after
      ∧ (Moves room tokens request world.today world.ledger response after.ledger
        ∨ response.status ≠ 200 ∧ after.ledger = world.ledger) := by
  rw [requestTransfer_eq readable]
  cases asked : request.transfer? room with
  | none => exact ⟨_, _, rfl, .inr ⟨(by decide : 400 ≠ 200), rfl⟩⟩
  | some body =>
      dsimp only
      split_ifs
      · exact ⟨_, _, rfl, .inr ⟨(by decide : 400 ≠ 200), rfl⟩⟩
      · exact ⟨_, _, rfl, .inr ⟨(by decide : 400 ≠ 200), rfl⟩⟩
      · cases bearer : authenticate tokens request with
        | error message => exact ⟨_, _, rfl, .inr ⟨(by decide : 401 ≠ 200), rfl⟩⟩
        | ok owner =>
            rcases exists_transferFor_eq_ok owner body world with ⟨response, after, run⟩
            refine ⟨response, after, run, ?_⟩
            rcases transferFor_eq_ok raceless punctual run with
              ⟨id, description, answered, whole, effect⟩ | unchanged
            · rcases authenticate_eq_ok bearer with ⟨token, carried, known⟩
              exact .inl (.intro carried known asked whole answered effect)
            · exact .inr unchanged

/-- A request that is answered with success has changed the ledger. -/
theorem Moves.ne {today : Date} {before later : Ledger}
    (moves : Moves room tokens request today before response later) : later ≠ before := by
  rcases moves with ⟨-, -, -, -, -, effect⟩
  cases effect with
  | intro source_found stored covered debited target_found credited =>
    intro same
    have longer := congrArg (fun ledger => ledger.transfers.length) same
    simp [Transfer.withRows, Ledger.setBalance] at longer

/-- The number that is told is the one that comes next. -/
theorem Moves.response_eq {today : Date} {before later : Ledger}
    (moves : Moves room tokens request today before response later) :
    response = transferResponse (Ledger.nextId (before.transfers.map Transfer.id)) := by
  rcases moves with ⟨-, -, -, -, rfl, effect⟩
  cases effect
  rfl

theorem Moves.status {today : Date} {before later : Ledger}
    (moves : Moves room tokens request today before response later) : response.status = 200 := by
  rcases moves with ⟨-, -, -, -, rfl, -⟩
  rfl

/-! ## Where storage does not fail -/

theorem withinDeadline_of_faultless {Answer : Type} {work : Call Answer}
    (faultless : world.fault = none) : withinDeadline work world = (some <$> work) world := by
  rw [withinDeadline, bind_of_ok (failAt_of_faultless faultless _ _),
    bind_of_ok (visit_of_faultless faultless _), map_eq_bind]
  rfl

theorem failureResponse_of_refusal {failure : Failure} (refusal : failure.family = .refusal) :
    failureResponse failure
      = .error (if failure = .accountsNotOwned then 403 else 400) failure.message := by
  rw [failureResponse, refusal]

theorem transferFor_of_error {failure : Failure} {after : World} (faultless : world.fault = none)
    (failed : moveFor owner body world = .error failure after) :
    transferFor owner body world = .ok (failureResponse failure) after := by
  have late := (withinDeadline_of_faultless faultless).trans
    (by rw [map_eq_bind, bind_of_error failed])
  unfold transferFor
  rw [tryCatch_apply, bind_of_error late]
  rfl

theorem transferFor_of_ok {id : Int} (faultless : world.fault = none)
    (done : moveFor owner body world = .ok id after) :
    transferFor owner body world = .ok (transferResponse id) after := by
  unfold transferFor
  rw [tryCatch_apply, bind_of_ok ((withinDeadline_of_faultless faultless).trans
    (map_eq_ok_iff.mpr ⟨id, done, rfl⟩))]
  rfl

/-- Without a fault, a transfer between two accounts is refused for its reason, or done, or fails
because its description cannot be written. -/
theorem transferFor_of_faultless (owner : String) (positive : ¬body.amount.value ≤ 0)
    (finite : body.amount.isFinite = true) (apart : body.source ≠ body.target)
    (source_word : Integer.isWord body.source = true)
    (target_word : Integer.isWord body.target = true)
    (distinct : (world.ledger.accounts.map Account.id).Nodup) (faultless : world.fault = none) :
    match Movement.refusal? ⟨owner, body.source, body.target, body.amount⟩ world.ledger with
    | some failure => transferFor owner body world = .ok (failureResponse failure) world
    | none =>
        (body.IsTorn → transferFor owner body world = .ok (.error 500 serverError) world)
        ∧ (¬body.IsTorn →
          ∃ id after, transferFor owner body world = .ok (transferResponse id) after) := by
  have sign : body.amount.isNotPositive = .ok false := by
    rw [Decimal.isNotPositive_of_isFinite finite, decide_eq_false positive]
  have torn_told := Movement.requestTorn_of_faultless ⟨owner, body.source, body.target, body.amount⟩
    world sign finite apart source_word target_word distinct faultless
  have told := fun description => Movement.request_of_faultless
    ⟨owner, body.source, body.target, body.amount⟩ world description sign finite apart source_word
    target_word distinct faultless
  cases reason : Movement.refusal? ⟨owner, body.source, body.target, body.amount⟩ world.ledger with
  | some failure =>
      simp only [reason, Option.getD_some] at told torn_told ⊢
      apply transferFor_of_error faultless
      unfold moveFor
      cases body.description.mapM LooseText.whole? with
      | none => exact torn_told
      | some description => exact told description
  | none =>
      simp only [reason, Option.getD_none] at told torn_told ⊢
      constructor
      · intro torn
        have failed : moveFor owner body world = .error .tornText world := by
          rw [moveFor, torn]
          exact torn_told
        exact transferFor_of_error faultless failed
      · intro whole
        rcases Option.ne_none_iff_exists'.mp whole with ⟨description, whole⟩
        rcases told description with ⟨id, after, done⟩
        refine ⟨id, after, transferFor_of_ok faultless ?_⟩
        rw [moveFor, whole]
        exact done

/-- The status and the message that refuse a request, if it is refused: what its body says comes
first, then who sends it, and then what the ledger says. -/
def refusal? (room : Nat) (tokens : ApiTokens) (request : Request) (ledger : Ledger) :
    Option (Nat × String) :=
  match request.transfer? room with
  | none => some (400, invalidParameters)
  | some body =>
      if body.amount.value ≤ 0 then some (400, Failure.amountNotPositive.message)
      else if body.source = body.target then some (400, Failure.sameAccount.message)
      else
        match authenticate tokens request with
        | .error message => some (401, message)
        | .ok owner =>
            (Movement.refusal? ⟨owner, body.source, body.target, body.amount⟩ ledger).map
              fun failure =>
                (if failure = .accountsNotOwned then 403 else 400, failure.message)

/-- Does a request ask for a transfer with a description that cannot be written? -/
def Request.IsTorn (room : Nat) (request : Request) : Prop :=
  ∃ body ∈ request.transfer? room, body.IsTorn

/-- Without a fault, a request is answered with its refusal, or with success unless its description
cannot be written. -/
theorem requestTransfer_of_faultless (tokens : ApiTokens) (request : Request)
    (readable : ∀ container, Json.readBytes room request.body ≠ .error (.tooDeep container))
    (words : ∀ body ∈ request.transfer? room,
      Integer.isWord body.source ∧ Integer.isWord body.target)
    (distinct : (world.ledger.accounts.map Account.id).Nodup) (faultless : world.fault = none) :
    match refusal? room tokens request world.ledger with
    | some (status, message) =>
        requestTransfer room tokens request world = .ok (.error status message) world
    | none =>
        (request.IsTorn room →
          requestTransfer room tokens request world = .ok (.error 500 serverError) world)
        ∧ (¬request.IsTorn room → ∃ id after,
          requestTransfer room tokens request world = .ok (transferResponse id) after) := by
  rw [requestTransfer_eq readable, refusal?]
  cases asked : request.transfer? room with
  | none => rfl
  | some body =>
      have torn_iff : request.IsTorn room ↔ body.IsTorn := by simp [Request.IsTorn, asked]
      dsimp only
      split_ifs with sign same
      · rfl
      · rfl
      · cases authenticate tokens request with
        | error message => rfl
        | ok owner =>
            have body_words := words body asked
            have told := transferFor_of_faultless owner sign
              (Request.isFinite_of_transfer? asked) same body_words.1 body_words.2 distinct
              faultless
            dsimp only
            cases reason : Movement.refusal? ⟨owner, body.source, body.target, body.amount⟩
                world.ledger with
            | some failure =>
                simp only [reason] at told
                rwa [failureResponse_of_refusal (Movement.family_of_refusal? reason)] at told
            | none =>
                simp only [reason] at told
                exact ⟨fun torn => told.1 (torn_iff.mp torn),
                  fun whole => told.2 (mt torn_iff.mpr whole)⟩

/-- Does a request ask for nothing that could be done, whoever sends it? -/
def Request.IsMalformed (room : Nat) (request : Request) : Prop :=
  ∀ body ∈ request.transfer? room, body.amount.value ≤ 0 ∨ body.source = body.target

/-- Nobody asks who sends a malformed request. -/
theorem requestTransfer_of_isMalformed {other : Request} (tokens others : ApiTokens)
    (readable : ∀ container, Json.readBytes room request.body ≠ .error (.tooDeep container))
    (malformed : request.IsMalformed room) (same : other.body = request.body) :
    requestTransfer room others other = requestTransfer room tokens request := by
  have same_asked : other.transfer? room = request.transfer? room := by
    rw [Request.transfer?, Request.transfer?, same]
  rw [requestTransfer_eq readable, requestTransfer_eq (same ▸ readable), same_asked]
  cases asked : request.transfer? room with
  | none => rfl
  | some body =>
      dsimp only
      rcases malformed body asked with below | one
      · rw [if_pos below, if_pos below]
      · rw [if_pos one, if_pos one]

/-- The request for a transfer with these headers and this body. -/
def Request.ofTransfer (headers : Named (List UInt8)) (body : List UInt8) : Request where
  method := "POST"
  path := transferPath
  headers := headers
  body := body

theorem answer_ofTransfer (room : Nat) (tokens : ApiTokens) (headers : Named (List UInt8))
    (body : List UInt8) :
    answer room tokens (.ofTransfer headers body)
      = requestTransfer room tokens (.ofTransfer headers body) := by
  have known : ¬(transferPath ≠ messagePath ∧ transferPath ≠ transferPath) := fun other =>
    other.2 rfl
  have posted : ¬"POST" = "OPTIONS" := by decide
  have apart : ¬transferPath = messagePath := by decide
  rw [answer, Request.ofTransfer, if_neg known, if_neg posted, if_neg (not_not.mpr rfl),
    if_neg apart]

/-- A request for a transfer changes the ledger exactly when it is answered with the status 200, and
then the change is the one transfer of the token's owner that its body asks for, under the number
that the answer tells.  Where nothing fails, the first of the reasons in order refuses it, and what
is malformed is answered alike for every bearer.  Two requests that nothing refuses get no such
answer: a body that nests deeper than there is room for gets no answer at all, and a description
that cannot be written is an error of the server, where all else is done.  Neither changes
anything. -/
theorem transfer_changes_iff_answered_ok (room : Nat) (tokens : ApiTokens)
    (headers : Named (List UInt8)) (body : List UInt8) (raceless : world.IsRaceless)
    (punctual : world.IsPunctual) :
    (∃ container, Json.readBytes room body = .error (.tooDeep container)
      ∧ answer room tokens (.ofTransfer headers body) world
        = .error (.nestedTooDeep container) world)
    ∨ ∃ response after, answer room tokens (.ofTransfer headers body) world = .ok response after
      ∧ (after.ledger ≠ world.ledger ↔ response.status = 200)
      ∧ (response.status = 200 → Moves room tokens (.ofTransfer headers body) world.today
        world.ledger response after.ledger)
      ∧ (world.fault = none → (world.ledger.accounts.map Account.id).Nodup →
        (∀ asked ∈ (Request.ofTransfer headers body).transfer? room,
          Integer.isWord asked.source ∧ Integer.isWord asked.target) →
        match refusal? room tokens (.ofTransfer headers body) world.ledger with
        | some (status, message) => response = .error status message
        | none =>
            ((Request.ofTransfer headers body).IsTorn room → response = .error 500 serverError)
            ∧ (¬(Request.ofTransfer headers body).IsTorn room → response.status = 200))
      ∧ ((Request.ofTransfer headers body).IsMalformed room → ∀ otherTokens otherHeaders,
        answer room otherTokens (.ofTransfer otherHeaders body) world = .ok response after) := by
  by_cases readable : ∀ container, Json.readBytes room body ≠ .error (.tooDeep container)
  · right
    simp only [answer_ofTransfer]
    rcases requestTransfer_outcome room tokens (.ofTransfer headers body) readable raceless punctual
      with ⟨response, after, run, outcome⟩
    refine ⟨response, after, run, ?_, ?_, ?_, ?_⟩
    · rcases outcome with moves | ⟨refused, unchanged⟩
      · exact ⟨fun _ => moves.status, fun _ => moves.ne⟩
      · exact ⟨fun changed => absurd unchanged changed, fun done => absurd done refused⟩
    · intro done
      exact outcome.resolve_right fun other => other.1 done
    · intro faultless distinct words
      have told := requestTransfer_of_faultless tokens (.ofTransfer headers body) readable
        words distinct faultless
      split at told
      next status message reason =>
        cases run.symm.trans told
        rfl
      next reason =>
        constructor
        · intro torn
          cases run.symm.trans (told.1 torn)
          rfl
        · intro whole
          rcases told.2 whole with ⟨id, later, done⟩
          cases run.symm.trans done
          rfl
    · intro malformed otherTokens otherHeaders
      have same_body : (Request.ofTransfer otherHeaders body).body = body := rfl
      rw [requestTransfer_of_isMalformed tokens otherTokens readable malformed same_body, run]
  · left
    rcases not_forall_not.mp readable with ⟨container, deep⟩
    rw [answer_ofTransfer]
    exact ⟨container, deep, requestTransfer_of_tooDeep tokens world deep⟩

/-- Fifty reais lie in a box, and there is an account at a bank. -/
def savings : World :=
  World.newYear.run
    [.create "ana" "Cofre" .wallet (.ofCents false 5000),
     .create "ana" "Banco" .checking .zero]

/-- Who bears the token of Ana. -/
def savingsHeaders : Named (List UInt8) :=
  [("authorization", "Bearer segredo".toUTF8.toList)]

/-- Some reais are to go to the bank. -/
def savingsBody : List UInt8 :=
  "\x7b\"from_account\": 1, \"to_account\": 2, \"amount\": \"12.50\"\x7d".toUTF8.toList

/-- They go there, since Ana has them; nobody may send them without her token. -/
theorem transfer_changes_iff_answered_ok_savings :
    (∃ response after,
      answer 2 [("segredo", "ana")] (.ofTransfer savingsHeaders savingsBody) savings
        = .ok response after
      ∧ response.status = 200 ∧ after.ledger ≠ savings.ledger)
    ∧ ∃ after, answer 2 [("segredo", "ana")] (.ofTransfer [] savingsBody) savings
        = .ok (.error 401 tokenRequired) after
      ∧ after.ledger = savings.ledger := by
  have faultless : savings.fault = none := by decide +kernel
  have raceless : savings.IsRaceless := World.point_ne_of_faultless faultless _
  have punctual : savings.IsPunctual := World.point_ne_of_faultless faultless _
  have distinct : (savings.ledger.accounts.map Account.id).Nodup := by decide +kernel
  have readable : (Json.readBytes 2 savingsBody).toOption.isSome = true := by
    decide +kernel
  have words : ∀ headers, ∀ asked ∈ (Request.ofTransfer headers savingsBody).transfer? 2,
      Integer.isWord asked.source ∧ Integer.isWord asked.target := by
    intro headers
    change ∀ asked ∈ (Request.ofTransfer [] savingsBody).transfer? 2, _
    decide +kernel
  have whole : ¬(Request.ofTransfer savingsHeaders savingsBody).IsTorn 2 := by
    change ¬∃ body ∈ (Request.ofTransfer [] savingsBody).transfer? 2, body.IsTorn
    decide +kernel
  have admitted : refusal? 2 [("segredo", "ana")] (.ofTransfer savingsHeaders savingsBody)
      savings.ledger = none := by decide +kernel
  have refused : refusal? 2 [("segredo", "ana")] (.ofTransfer [] savingsBody) savings.ledger
      = some (401, tokenRequired) := by decide +kernel
  constructor
  · rcases transfer_changes_iff_answered_ok 2 [("segredo", "ana")] savingsHeaders savingsBody
      raceless punctual with ⟨container, deep, -⟩ | ⟨response, after, run, changes, -, told, -⟩
    · rw [deep] at readable
      cases readable
    · have done := told faultless distinct (words _)
      rw [admitted] at done
      exact ⟨response, after, run, done.2 whole, changes.mpr (done.2 whole)⟩
  · rcases transfer_changes_iff_answered_ok 2 [("segredo", "ana")] [] savingsBody raceless punctual
      with ⟨container, deep, -⟩ | ⟨response, after, run, changes, -, told, -⟩
    · rw [deep] at readable
      cases readable
    · have done := told faultless distinct (words _)
      rw [refused] at done
      subst done
      exact ⟨after, run, not_not.mp (mt changes.mp (by decide))⟩

/-! ## Bodies that nest too deep -/

/-- Brackets that open five thousand lists inside each other. -/
def nestedBody : List UInt8 :=
  List.replicate 5000 '['.toUInt8

/-- Some reais are to go to the bank, with half a surrogate pair for a description. -/
def tornBody : List UInt8 :=
  ("\x7b\"from_account\": 1, \"to_account\": 2, \"amount\": \"12.50\", "
    ++ "\"description\": \"\\ud800\"\x7d").toUTF8.toList

/-- Where there is room for a thousand lists, an invalid body gets no answer; and a transfer that
nothing refuses is an error of the server. -/
theorem not_answered_in_order :
    answer 1000 [("segredo", "ana")] (.ofTransfer savingsHeaders nestedBody) savings
      = .error (.nestedTooDeep .array) savings
    ∧ refusal? 1000 [("segredo", "ana")] (.ofTransfer savingsHeaders tornBody) savings.ledger = none
    ∧ (Call.answer (answer 1000 [("segredo", "ana")] (.ofTransfer savingsHeaders tornBody))
        savings).toOption.map Response.status = some 500 := by
  refine ⟨?_, by decide +kernel, by decide +kernel⟩
  rw [answer_ofTransfer]
  exact requestTransfer_of_tooDeep _ _ (Json.readBytes_of_nested (by decide))

end Http

end Cashbook
