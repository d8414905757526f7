import Cashbook.Ledger.Accounts
import Cashbook.Proofs.Ledger.Moving
import Cashbook.Proofs.Ledger.Recording
import Mathlib.Data.List.Infix

/-!
# What happens to a ledger

A ledger changes by accounts that are written, by batches of entries and by transfers.  Each of
these either does all of its work or fails and changes nothing, wherever storage fails; a run is
any number of them in any order.
-/

namespace Cashbook

open Call Money

namespace Account

variable {owner name : String} {kind : AccountKind} {opening : Decimal} {id : Int}
  {world after : World}

theorem atomic_create (owner name : String) (kind : AccountKind) (opening : Decimal) :
    Atomic (create owner name kind opening) :=
  atomic_atomically <| (reads_checkQuiet _).proceeds.bind fun _ =>
    (reads_storable _ _).proceeds.bind fun _ => respects_get.bind fun _ =>
      (proceeds_putLedger _).bind fun _ => respects_pure _

/-- A new account holds what it was opened with. -/
theorem create_eq_ok (run : create owner name kind opening world = .ok id after) :
    id = Ledger.nextId (world.ledger.accounts.map Account.id) ∧ ∃ amount,
      Stored.ofDecimal? opening = some amount
      ∧ after.ledger = { world.ledger with
          accounts := world.ledger.accounts
            ++ [⟨id, owner, name, kind, amount, amount, true, world.now⟩] } := by
  rcases atomically_eq_ok run with ⟨ended, work, committed⟩
  rw [committed.ledger]
  rcases bind_eq_ok_iff.mp work with ⟨_, quiet, check, rest⟩
  rcases checkQuiet_eq_ok_iff.mp check with ⟨-, rfl⟩
  rcases bind_eq_ok_iff.mp rest with ⟨amount, same, store, write⟩
  rcases storable_eq_ok_iff.mp store with ⟨stored, rfl⟩
  cases write
  exact ⟨rfl, amount, stored, rfl⟩

end Account

/-! ## Events -/

/-- What may happen to a ledger. -/
inductive Event where
  /-- The clock is set, and storage is about to fail somewhere or nowhere. -/
  | wait (today : Date) (now : Instant) (fault : Option Fault)
  /-- An account is written. -/
  | create (owner name : String) (kind : AccountKind) (opening : Decimal)
  /-- A batch of entries is written. -/
  | record (entries : List NewEntry)
  /-- Money is moved. -/
  | transfer (movement : Movement) (description : String) (date : Date)

namespace Event

/-- The call that an event makes. -/
def call : Event → Call Unit
  | wait today now fault =>
      modify fun world => { world with today := today, now := now, fault := fault }
  | create owner name kind opening => discard (Account.create owner name kind opening)
  | record entries => discard (Entry.record entries)
  | transfer movement description date => discard (Transfer.execute movement description date)

/-- The world after an event, whether its call fails or not. -/
def after (event : Event) (world : World) : World :=
  event.call.worldAfter world

/-- Does no other transfer slip in? -/
def IsRaceless : Event → Prop
  | wait _ _ fault => ∀ shown, fault = some shown → shown.point ≠ .race
  | _ => True

/-- What an event makes of a ledger. -/
inductive Outcome : Event → Ledger → Ledger → Prop where
  /-- Nothing changes. -/
  | same {event : Event} {ledger : Ledger} : Outcome event ledger ledger
  /-- An account is appended. -/
  | created {owner name : String} {kind : AccountKind} {opening : Decimal} {amount : Stored}
      {now : Instant} {before : Ledger} (stored : Stored.ofDecimal? opening = some amount) :
      Outcome (.create owner name kind opening) before { before with
        accounts := before.accounts ++ [⟨Ledger.nextId (before.accounts.map Account.id), owner,
          name, kind, amount, amount, true, now⟩] }
  /-- A batch is written. -/
  | recorded {entries : List NewEntry} {ids : List Int} {before after : Ledger}
      (written : Entry.Recorded entries ids before after) : Outcome (.record entries) before after
  /-- Money is moved. -/
  | moved {movement : Movement} {description : String} {date : Date} {id : Int}
      {before after : Ledger} (moved : Transfer.Effect movement description date before id after) :
      Outcome (.transfer movement description date) before after

variable {event : Event} {world : World}

theorem isRaceless_after (raceless : world.IsRaceless) (event_raceless : event.IsRaceless) :
    (event.after world).IsRaceless := by
  cases event with
  | wait today now fault => exact event_raceless
  | create owner name kind opening =>
      exact (((Account.atomic_create ..).proceeds.map _) world).isRaceless raceless
  | record entries => exact (((Entry.atomic_record _).proceeds.map _) world).isRaceless raceless
  | transfer movement description date =>
      exact (((Transfer.atomic_execute _ _ _).proceeds.map _) world).isRaceless raceless

/-- What holds of a call that succeeds holds of one that leaves the ledger alone when it fails. -/
theorem outcome_discard {Answer : Type} {call : Call Answer} (atomic : Atomic call)
    (raceless : world.IsRaceless)
    (done : ∀ answer after, call world = .ok answer after →
      Outcome event world.ledger after.ledger) :
    Outcome event world.ledger ((discard call).worldAfter world).ledger := by
  have atomic_discard : Atomic (discard call) := atomic.map _
  cases step : discard call world with
  | error failure after =>
      rw [worldAfter_of_error step, atomic_discard.ledger_of_error raceless step]
      exact .same
  | ok _ after =>
      rw [worldAfter_of_ok step]
      rcases map_eq_ok_iff.mp step with ⟨answer, run, -⟩
      exact done answer after run

/-- An event does all of its work or nothing. -/
theorem outcome_after (raceless : world.IsRaceless) :
    Outcome event world.ledger (event.after world).ledger := by
  cases event with
  | wait today now fault => exact .same
  | create owner name kind opening =>
      apply outcome_discard (Account.atomic_create ..) raceless
      intro id after run
      rcases Account.create_eq_ok run with ⟨rfl, amount, stored, ledger_eq⟩
      rw [ledger_eq]
      exact .created stored
  | record entries =>
      apply outcome_discard (Entry.atomic_record entries) raceless
      intro ids after run
      exact .recorded (Entry.recorded_of_record_eq_ok run)
  | transfer movement description date =>
      apply outcome_discard (Transfer.atomic_execute movement description date) raceless
      intro id after run
      exact .moved (Transfer.effect_of_execute_eq_ok raceless run)

/-- No event gives the number of an account twice. -/
theorem Outcome.nodup {before after : Ledger} (outcome : Outcome event before after)
    (distinct : (before.accounts.map Account.id).Nodup) :
    (after.accounts.map Account.id).Nodup := by
  cases outcome with
  | same => exact distinct
  | created stored =>
      rw [List.map_append, List.nodup_append]
      refine ⟨distinct, by simp, ?_⟩
      intro id member other fresh
      rw [List.map_singleton, List.mem_singleton] at fresh
      rw [fresh]
      exact (Ledger.lt_nextId member).ne
  | recorded written => rwa [← Ledger.map_id_emptied, written.kept, Ledger.map_id_emptied]
  | moved moved =>
      cases moved
      change ((Ledger.setBalance ..).accounts.map Account.id).Nodup
      rwa [← Ledger.map_id_emptied, Ledger.emptied_setBalance, Ledger.emptied_setBalance,
        Ledger.map_id_emptied]

end Event

/-! ## Runs -/

namespace World

/-- The world after events, one after another. -/
def run (world : World) : List Event → World
  | [] => world
  | event :: rest => (event.after world).run rest

/-- Does a property of ledgers hold before, between and after all events? -/
def Throughout (property : Ledger → Prop) (world : World) (events : List Event) : Prop :=
  ∀ earlier, earlier <+: events → property (world.run earlier).ledger

variable {property : Ledger → Prop} {world : World} {event : Event} {rest : List Event}

theorem throughout_cons_iff :
    Throughout property world (event :: rest)
      ↔ property world.ledger ∧ Throughout property (event.after world) rest := by
  constructor
  · intro throughout
    refine ⟨throughout [] List.nil_prefix, ?_⟩
    intro earlier before
    exact throughout (event :: earlier) (List.cons_prefix_cons.mpr ⟨rfl, before⟩)
  · rintro ⟨start, later⟩ earlier before
    cases earlier with
    | nil => exact start
    | cons first earlier =>
        rcases List.cons_prefix_cons.mp before with ⟨rfl, shorter⟩
        exact later earlier shorter

theorem Throughout.start {events : List Event} (throughout : Throughout property world events) :
    property world.ledger :=
  throughout [] List.nil_prefix

theorem Throughout.last {events : List Event} (throughout : Throughout property world events) :
    property (world.run events).ledger :=
  throughout events List.prefix_rfl

instance [DecidablePred property] (world : World) (events : List Event) :
    Decidable (Throughout property world events) :=
  decidable_of_iff (∀ earlier ∈ events.inits, property (world.run earlier).ledger)
    (by simp only [List.mem_inits, Throughout])

/-- A world with an empty ledger on the first day of a year. -/
def newYear : World where
  ledger := .empty
  today := ⟨2024, 1, 1, by decide⟩
  now := ⟨⟨2024, 1, 1, by decide⟩, 0⟩

end World

end Cashbook
