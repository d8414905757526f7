import Cashbook.Proofs.CommandLine.Escapes
import Cashbook.Proofs.Service.TransferRequests

/-!
# Input that is out of range

Where no fault shows, what a user asks for is done or refused, over the network and at the command
line alike, unless it is out of range: then it meets a limit that no refusal is for.
-/

namespace Cashbook

open Call Money

/-! ## Requests for transfers -/

namespace Movement

variable {movement : Movement} {world : World}

/-- A movement between accounts whose numbers do not fit is not admitted. -/
theorem validate_of_not_isWord (positive : movement.amount.isNotPositive = .ok false)
    (apart : movement.source ≠ movement.target)
    (large : ¬(Integer.isWord movement.source = true ∧ Integer.isWord movement.target = true)) :
    movement.validate world
      = .error (if isWholeCents movement.amount then .idTooLarge else .amountBelowCent) world := by
  have amount_run := checkAmount_of_positive positive world
  cases whole : isWholeCents movement.amount with
  | false =>
      rw [whole] at amount_run
      exact bind_of_error amount_run
  | true =>
      rw [whole] at amount_run
      have accounts_run : movement.checkAccounts world = .error .idTooLarge world := by
        rw [checkAccounts, if_neg apart]
        exact bind_of_error (Account.among_of_not_words large ..)
      exact (bind_of_ok amount_run).trans accounts_run

end Movement

/-- Do the numbers of both accounts fit into 64 bits? -/
abbrev TransferBody.HasWords (body : TransferBody) : Prop :=
  Integer.isWord body.source = true ∧ Integer.isWord body.target = true

namespace Http

variable {room : Nat} {tokens : ApiTokens} {request : Request} {body : TransferBody}
  {owner : String} {world : World} {status : Nat} {message : String}

/-- Does a request ask for a transfer of an owner that is refused for nothing but its accounts? -/
structure Request.IsWellFormed (request : Request) (room : Nat) (tokens : ApiTokens)
    (owner : String) (body : TransferBody) : Prop where
  bearer : authenticate tokens request = .ok owner
  asked : request.transfer? room = some body
  positive : 0 < body.amount.value
  whole : isWholeCents body.amount = true
  apart : body.source ≠ body.target

/-- Does a well-formed request name an account whose number does not fit into 64 bits, or bear a
description that cannot be written where nothing else refuses it? -/
inductive Request.Exceeds (request : Request) (room : Nat) (tokens : ApiTokens)
    (ledger : Ledger) : Prop where
  | wide {owner : String} {body : TransferBody}
      (formed : request.IsWellFormed room tokens owner body) (large : ¬body.HasWords)
  | torn {owner : String} {body : TransferBody}
      (formed : request.IsWellFormed room tokens owner body) (torn : body.IsTorn)
      (admitted : Movement.refusal? ⟨owner, body.source, body.target, body.amount⟩ ledger = none)

/-- What the response to a request for a transfer tells where no fault shows: success, a refusal, or
an error of the server where the request exceeds the limits; a well-formed request for an account
that is not the owner's is forbidden. -/
structure Response.Fits (response : Response) (room : Nat) (tokens : ApiTokens) (request : Request)
    (ledger : Ledger) : Prop where
  status : response.status ∈ [200, 400, 401, 403, 500]
  exceeding : response.status = 500 ↔ request.Exceeds room tokens ledger
  missing : ∀ {owner body}, request.IsWellFormed room tokens owner body → body.HasWords →
    ledger.account? owner body.source = none ∨ ledger.account? owner body.target = none →
    response.status = 403

theorem status_of_refusal? {ledger : Ledger}
    (refused : refusal? room tokens request ledger = some (status, message)) :
    status ∈ [400, 401, 403] := by
  unfold refusal? at refused
  split at refused
  · cases refused
    simp
  · split_ifs at refused
    · cases refused
      simp
    · cases refused
      simp
    · split at refused
      · cases refused
        simp
      · rcases Option.map_eq_some_iff.mp refused with ⟨failure, -, told⟩
        cases told
        split_ifs <;> simp

/-- What refuses a well-formed request is told by the ledger. -/
theorem refusal?_of_isWellFormed (ledger : Ledger)
    (formed : request.IsWellFormed room tokens owner body) :
    refusal? room tokens request ledger =
      (Movement.refusal? ⟨owner, body.source, body.target, body.amount⟩ ledger).map fun failure =>
        (if failure = .accountsNotOwned then 403 else 400, failure.message) := by
  simp only [refusal?, formed.asked, if_neg (not_le.mpr formed.positive), if_neg formed.apart,
    formed.bearer]

/-- A request that nothing refuses is well-formed. -/
theorem exists_isWellFormed_of_admitted {ledger : Ledger}
    (admitted : refusal? room tokens request ledger = none) :
    ∃ owner body, request.IsWellFormed room tokens owner body
      ∧ Movement.refusal? ⟨owner, body.source, body.target, body.amount⟩ ledger = none := by
  unfold refusal? at admitted
  cases asked : request.transfer? room with
  | none => simp [asked] at admitted
  | some body =>
      simp only [asked] at admitted
      split_ifs at admitted with sign same
      cases bearer : authenticate tokens request with
      | error message => simp [bearer] at admitted
      | ok owner =>
          simp only [bearer, Option.map_eq_none_iff] at admitted
          have whole : isWholeCents body.amount = true := by
            by_contra part
            simp [Movement.refusal?, part] at admitted
          exact ⟨owner, body, ⟨bearer, asked, not_le.mp sign, whole, same⟩, admitted⟩

theorem refusal?_of_missing {ledger : Ledger}
    (formed : request.IsWellFormed room tokens owner body)
    (missing : ledger.account? owner body.source = none
      ∨ ledger.account? owner body.target = none) :
    refusal? room tokens request ledger = some (403, Failure.accountsNotOwned.message) := by
  have refused : Movement.refusal? ⟨owner, body.source, body.target, body.amount⟩ ledger
      = some .accountsNotOwned := by
    simp only [Movement.refusal?, formed.whole, if_true]
    rcases missing with none | none
    · rw [none]
    · cases ledger.account? owner body.source <;> simp [none]
  rw [refusal?_of_isWellFormed ledger formed, refused]
  rfl

/-- Without a fault, a transfer between accounts whose numbers do not fit is an error of the
server, unless its amount is refused. -/
theorem transferFor_of_not_isWord (owner : String) (positive : 0 < body.amount.value)
    (finite : body.amount.isFinite = true) (apart : body.source ≠ body.target)
    (large : ¬(Integer.isWord body.source = true ∧ Integer.isWord body.target = true))
    (faultless : world.fault = none) :
    transferFor owner body world =
      .ok (if isWholeCents body.amount then .error 500 serverError
        else .error 400 Failure.amountBelowCent.message) world := by
  have sign : body.amount.isNotPositive = .ok false := by
    rw [Decimal.isNotPositive_of_isFinite finite, decide_eq_false (not_le.mpr positive)]
  have refused := @Movement.validate_of_not_isWord ⟨owner, body.source, body.target, body.amount⟩
    world sign apart large
  have failed : moveFor owner body world
      = .error (if isWholeCents body.amount then .idTooLarge else .amountBelowCent) world := by
    unfold moveFor
    cases body.description.mapM LooseText.whole? with
    | none =>
        dsimp only
        rw [Movement.requestTorn_eq]
        exact bind_of_error refused
    | some description => exact Movement.request_of_validate_error description refused
  rw [transferFor_of_error faultless failed]
  cases isWholeCents body.amount with
  | false => rfl
  | true => rfl

/-- What a request within the limits meets is success or a refusal. -/
theorem fits_of_within {response : Response} {ledger : Ledger}
    (within : ¬request.Exceeds room tokens ledger) (status : response.status ∈ [200, 400, 401, 403])
    (missing : ∀ {owner body}, request.IsWellFormed room tokens owner body → body.HasWords →
      ledger.account? owner body.source = none ∨ ledger.account? owner body.target = none →
      response.status = 403) : response.Fits room tokens request ledger := by
  refine ⟨List.mem_append_left [500] status, ?_, missing⟩
  constructor
  · intro other
    rw [other] at status
    exact absurd status (by decide)
  · exact fun exceeds => absurd exceeds within

/-- A request whose accounts have numbers that fit is done or refused, unless its description cannot
be written. -/
theorem fits_of_hasWords {response : Response} {after : World}
    (readable : ∀ container, Json.readBytes room request.body ≠ .error (.tooDeep container))
    (words : ∀ body ∈ request.transfer? room, body.HasWords)
    (distinct : (world.ledger.accounts.map Account.id).Nodup) (faultless : world.fault = none)
    (run : requestTransfer room tokens request world = .ok response after) :
    response.Fits room tokens request world.ledger := by
  have told := requestTransfer_of_faultless tokens request readable words distinct faultless
  cases refused : refusal? room tokens request world.ledger with
  | none =>
      simp only [refused] at told
      have owned : ∀ {owner body}, request.IsWellFormed room tokens owner body → body.HasWords →
          ¬(world.ledger.account? owner body.source = none
            ∨ world.ledger.account? owner body.target = none) := by
        intro owner body formed _ missing
        rw [refusal?_of_missing formed missing] at refused
        cases refused
      by_cases torn : request.IsTorn room
      · cases run.symm.trans (told.1 torn)
        rcases exists_isWellFormed_of_admitted refused with ⟨owner, body, formed, admitted⟩
        rcases torn with ⟨other, asked, torn⟩
        cases formed.asked.symm.trans asked
        exact ⟨(by decide : 500 ∈ [200, 400, 401, 403, 500]),
          ⟨fun _ => .torn formed torn admitted, fun _ => rfl⟩,
          fun formed words missing => absurd missing (owned formed words)⟩
      · rcases told.2 torn with ⟨id, later, done⟩
        cases run.symm.trans done
        have within : ¬request.Exceeds room tokens world.ledger := by
          rintro (⟨formed, large⟩ | ⟨formed, half, -⟩)
          · exact large (words _ formed.asked)
          · exact torn ⟨_, formed.asked, half⟩
        exact fits_of_within within List.mem_cons_self fun formed words missing =>
          absurd missing (owned formed words)
  | some reason =>
      rcases reason with ⟨status, message⟩
      simp only [refused] at told
      cases run.symm.trans told
      have within : ¬request.Exceeds room tokens world.ledger := by
        rintro (⟨formed, large⟩ | ⟨formed, -, admitted⟩)
        · exact large (words _ formed.asked)
        · rw [refusal?_of_isWellFormed _ formed, admitted] at refused
          cases refused
      apply fits_of_within within (List.mem_cons_of_mem 200 (status_of_refusal? refused))
      intro owner body formed _ missing
      rw [refusal?_of_missing formed missing] at refused
      cases refused
      rfl

/-- A request that names an account whose number does not fit exceeds the limits unless there is
another reason to refuse it. -/
theorem Request.exceeds_iff {ledger : Ledger} (asked : request.transfer? room = some body)
    (large : ¬body.HasWords) :
    request.Exceeds room tokens ledger ↔
      0 < body.amount.value ∧ body.source ≠ body.target
        ∧ (∃ owner, authenticate tokens request = .ok owner)
        ∧ isWholeCents body.amount = true := by
  constructor
  · have told : ∀ {owner other}, request.IsWellFormed room tokens owner other →
        0 < body.amount.value ∧ body.source ≠ body.target
          ∧ (∃ owner, authenticate tokens request = .ok owner)
          ∧ isWholeCents body.amount = true := by
      intro owner other formed
      cases asked.symm.trans formed.asked
      exact ⟨formed.positive, formed.apart, ⟨owner, formed.bearer⟩, formed.whole⟩
    rintro (⟨formed, -⟩ | ⟨formed, -, -⟩)
    · exact told formed
    · exact told formed
  · rintro ⟨positive, apart, ⟨owner, bearer⟩, whole⟩
    exact .wide ⟨bearer, asked, positive, whole, apart⟩ large

/-- A request that names an account whose number does not fit is refused for another reason, or is
an error of the server. -/
theorem fits_of_not_hasWords {response : Response} {after : World}
    (readable : ∀ container, Json.readBytes room request.body ≠ .error (.tooDeep container))
    (asked : request.transfer? room = some body) (large : ¬body.HasWords)
    (faultless : world.fault = none)
    (run : requestTransfer room tokens request world = .ok response after) :
    response.Fits room tokens request world.ledger := by
  have exceeds_iff := @Request.exceeds_iff room tokens _ _ world.ledger asked large
  have no_words : ∀ {owner other}, request.IsWellFormed room tokens owner other →
      ¬other.HasWords := by
    intro owner other formed
    cases asked.symm.trans formed.asked
    exact large
  have early : ∀ {status message}, status ∈ [200, 400, 401, 403] →
      ¬request.Exceeds room tokens world.ledger →
      (Response.error status message).Fits room tokens request world.ledger :=
    fun status within => fits_of_within within status fun formed words =>
      absurd words (no_words formed)
  rw [requestTransfer_eq readable, asked] at run
  dsimp only at run
  split_ifs at run with sign same
  · cases run
    exact early (by decide) fun exceeds => absurd (exceeds_iff.mp exceeds).1 (not_lt.mpr sign)
  · cases run
    exact early (by decide) fun exceeds => absurd same (exceeds_iff.mp exceeds).2.1
  · cases bearer : authenticate tokens request with
    | error message =>
        rw [bearer] at run exceeds_iff
        cases run
        refine early (by decide) fun exceeds => ?_
        rcases (exceeds_iff.mp exceeds).2.2.1 with ⟨owner, other⟩
        cases other
    | ok owner =>
        rw [bearer] at run
        have told := transferFor_of_not_isWord owner (not_le.mp sign)
          (Request.isFinite_of_transfer? asked) same large faultless
        cases run.symm.trans told
        cases whole : isWholeCents body.amount with
        | false =>
            refine early (by decide) fun exceeds => ?_
            rw [(exceeds_iff.mp exceeds).2.2.2] at whole
            cases whole
        | true =>
            have exceeds := exceeds_iff.mpr ⟨not_le.mp sign, same, ⟨owner, bearer⟩, whole⟩
            rw [if_pos rfl]
            exact ⟨(by decide : 500 ∈ [200, 400, 401, 403, 500]),
              ⟨fun _ => exceeds, fun _ => rfl⟩, fun formed words => absurd words (no_words formed)⟩

/-- Without a fault, a request whose body can be read has a response that fits. -/
theorem exists_fits (tokens : ApiTokens) (request : Request)
    (readable : ∀ container, Json.readBytes room request.body ≠ .error (.tooDeep container))
    (distinct : (world.ledger.accounts.map Account.id).Nodup) (faultless : world.fault = none) :
    ∃ response after, requestTransfer room tokens request world = .ok response after
      ∧ response.Fits room tokens request world.ledger := by
  have punctual : world.IsPunctual := World.point_ne_of_faultless faultless _
  rcases requestTransfer_outcome room tokens request readable
    (World.point_ne_of_faultless faultless _) punctual with ⟨response, after, run, -⟩
  refine ⟨response, after, run, ?_⟩
  by_cases words : ∀ body ∈ request.transfer? room, body.HasWords
  · exact fits_of_hasWords readable words distinct faultless run
  · push Not at words
    rcases words with ⟨body, asked, large⟩
    exact fits_of_not_hasWords readable asked large faultless run

end Http

/-! ## Both together -/

variable {world : World}

/-- Where no fault shows, bad input is refused unless it is out of range.  A request for a transfer
is done or refused, and forbidden where an account is not the owner's; it is an error of the server
exactly where it names an account beyond 64 bits, or where nothing is wrong with it but a
description that cannot be written; and it gets no response only where its body nests deeper than
there is room for.  A command that adds tells of success, a complaint or misuse, unless something in
its words is out of reach. -/
theorem refused_unless_out_of_range (faultless : world.fault = none)
    (distinct : (world.ledger.accounts.map Account.id).Nodup) (storable : world.ledger.HasWords) :
    (∀ room tokens headers body,
      (∃ container, Json.readBytes room body = .error (.tooDeep container)
        ∧ Http.answer room tokens (.ofTransfer headers body) world
          = .error (.nestedTooDeep container) world)
      ∨ ∃ response after,
        Http.answer room tokens (.ofTransfer headers body) world = .ok response after
        ∧ response.Fits room tokens (.ofTransfer headers body) world.ledger)
    ∧ ∀ environment site words, CommandLine.AsksToAdd words →
      match CommandLine.escape? environment words world.today world.ledger with
      | some failure =>
          (∃ after, CommandLine.run environment site words world = .error failure after)
          ∧ ∃ owner databaseUrl entry,
            CommandLine.Invocation.ofWords environment words
              = .ok ⟨owner, databaseUrl, .addEntry entry⟩
            ∧ entry.Exceeds world.today failure
      | none => ∃ ending after, CommandLine.run environment site words world = .ok ending after
          ∧ (ending.exitCode = 0
            ∨ (∃ complaint, ending = (CommandLine.Ending.refused complaint).plain)
            ∨ ∃ error, ending = (CommandLine.Ending.misused error).plain) := by
  constructor
  · intro room tokens headers body
    rw [Http.answer_ofTransfer]
    by_cases readable : ∀ container, Json.readBytes room body ≠ .error (.tooDeep container)
    · exact .inr (Http.exists_fits tokens (.ofTransfer headers body) readable distinct faultless)
    · rcases not_forall_not.mp readable with ⟨container, deep⟩
      exact .inl ⟨container, deep, Http.requestTransfer_of_tooDeep tokens world deep⟩
  · intro environment site words asks
    have ran := CommandLine.run_of_escape? environment site asks storable faultless
    cases escapes : CommandLine.escape? environment words world.today world.ledger with
    | some failure =>
        rw [escapes] at ran
        exact ⟨ran, CommandLine.exceeds_of_escape? escapes⟩
    | none =>
        rw [escapes] at ran
        exact ran

/-- Without a second account of Ana, nothing may go there, and a bicycle is still within reach. -/
theorem refused_unless_out_of_range_within :
    (∃ response after,
      Http.answer 1 [("segredo", "ana")] (.ofTransfer Http.savingsHeaders Http.savingsBody)
        CommandLine.middleOfMarch = .ok response after
      ∧ response.status = 403)
    ∧ ∃ ending after,
      CommandLine.run [] ⟨none, "/home/ana"⟩ CommandLine.bicycleWords CommandLine.middleOfMarch
        = .ok ending after
      ∧ (ending.exitCode = 0
        ∨ (∃ complaint, ending = (CommandLine.Ending.refused complaint).plain)
        ∨ ∃ error, ending = (CommandLine.Ending.misused error).plain) := by
  have distinct : (CommandLine.middleOfMarch.ledger.accounts.map Account.id).Nodup := by
    decide +kernel
  have storable : CommandLine.middleOfMarch.ledger.HasWords :=
    ⟨by decide +kernel, by decide +kernel⟩
  rcases refused_unless_out_of_range rfl distinct storable with ⟨requests, commands⟩
  constructor
  · have readable : (Json.readBytes 1 Http.savingsBody).toOption.isSome = true := by
      decide +kernel
    rcases requests 1 [("segredo", "ana")] Http.savingsHeaders Http.savingsBody with
      ⟨container, deep, -⟩ | ⟨response, after, run, fits⟩
    · rw [deep] at readable
      cases readable
    · have formed : (Http.Request.ofTransfer Http.savingsHeaders Http.savingsBody).IsWellFormed
          1 [("segredo", "ana")] "ana" ⟨1, 2, .finite false 1250 (-2), none⟩ := by
        constructor <;> decide +kernel
      refine ⟨response, after, run, fits.missing formed ?_ (.inr ?_)⟩
      · decide +kernel
      · decide +kernel
  · have asks : CommandLine.AsksToAdd CommandLine.bicycleWords := by
      refine ⟨_, _, rfl, rfl, rfl, ?_⟩
      decide +kernel
    have ran := commands [] ⟨none, "/home/ana"⟩ CommandLine.bicycleWords asks
    have within : CommandLine.escape? [] CommandLine.bicycleWords CommandLine.middleOfMarch.today
        CommandLine.middleOfMarch.ledger = none := by
      decide +kernel
    rw [within] at ran
    exact ran

/-- Some reais are to go to an account with a number beyond 64 bits. -/
def beyondBody : List UInt8 :=
  ("\x7b\"from_account\": 1, \"to_account\": 9223372036854775808, "
    ++ "\"amount\": \"12.50\"\x7d").toUTF8.toList

/-- The words for a coffee on a card with a number beyond 64 bits. -/
def beyondWords : List String :=
  ["--owner", "ana", "add", "--amount", "10", "--description", "Café", "--card",
    "9223372036854775808"]

/-- The words for a coffee whose second installment is behind the last day of the calendar. -/
def behindWords : List String :=
  ["--owner", "ana", "add", "--amount", "10", "--description", "Café", "--date", "9999-12-31",
    "--installments", "2"]

/-- An error of the server tells of an account that Ana does not own, and two commands have no
ending. -/
theorem not_refused_out_of_range :
    (answer (Http.answer 1 [("segredo", "ana")] (.ofTransfer Http.savingsHeaders beyondBody))
        CommandLine.middleOfMarch).toOption.map Http.Response.status = some 500
    ∧ answer (CommandLine.run [] ⟨none, "/home/ana"⟩ beyondWords) CommandLine.middleOfMarch
      = .error .idTooLarge
    ∧ answer (CommandLine.run [] ⟨none, "/home/ana"⟩ behindWords) CommandLine.middleOfMarch
      = .error (.calendar (.yearOutOfRange 10000)) := by
  refine ⟨?_, ?_, ?_⟩
  all_goals decide +kernel

end Cashbook
