import Cashbook.Ledger.Bindings
import Cashbook.Ledger.Cards
import Cashbook.Ledger.Categories
import Cashbook.Proofs.Ledger.Events
import Mathlib.Logic.Relation

/-!
# The changes of a ledger

A ledger changes in eight ways only: a chat is bound or a binding switched off, an account is
opened or taken out of use, a card or a category is written, a batch is recorded, or money is
moved.  Every write makes one of these changes or none, wherever storage fails, and a transfer that
slips in before another one makes a change of its own.
-/

namespace Cashbook

open Call Money

namespace Ledger

/-- What one write makes of a ledger. -/
inductive Change : Ledger → Ledger → Prop where
  /-- A chat is bound to an owner. -/
  | bound (owner chat : String) (before : Ledger) :
      Change before { before with bindings := (Binding.assigned owner chat before.bindings).2 }
  /-- A binding is switched off. -/
  | released (id : Int) (before : Ledger) :
      Change before { before with bindings := before.bindings.map fun binding =>
        if binding.id = id then { binding with active := false } else binding }
  /-- An account is opened. -/
  | opened {opening : Decimal} {amount : Stored} (stored : Stored.ofDecimal? opening = some amount)
      (owner name : String) (kind : AccountKind) (now : Instant) (before : Ledger) :
      Change before { before with
        accounts := before.accounts ++ [⟨nextId (before.accounts.map Account.id), owner, name, kind,
          amount, amount, true, now⟩] }
  /-- An account is taken out of use. -/
  | closed (id : Int) (before : Ledger) :
      Change before { before with accounts := before.accounts.map fun account =>
        if account.id = id then { account with active := false } else account }
  /-- A card is written. -/
  | issued {given : Decimal} {limit : Stored} (stored : Stored.ofDecimal? given = some limit)
      (owner name brand : String) (closingDay dueDay : Int) (before : Ledger) :
      Change before { before with
        cards := before.cards ++ [⟨nextId (before.cards.map Card.id), owner, name, brand, limit,
          closingDay, dueDay, true⟩] }
  /-- A category is written. -/
  | named (owner name : String) (kind : CategoryKind) (before : Ledger) :
      Change before { before with
        categories := before.categories
          ++ [⟨nextId (before.categories.map Category.id), owner, name, kind⟩] }
  /-- A batch of entries is recorded. -/
  | recorded {entries : List NewEntry} {ids : List Int} {before after : Ledger}
      (written : Entry.Recorded entries ids before after)
      (new : AreNew (before.entries.map Entry.id) ids) : Change before after
  /-- Money is moved. -/
  | moved {movement : Movement} {description : String} {date : Date} {id : Int}
      {before after : Ledger}
      (effect : Transfer.Effect movement description date before id after) : Change before after

/-- Does one ledger come about from another by changes? -/
abbrev Evolves : Ledger → Ledger → Prop :=
  Relation.ReflTransGen Change

/-- Does one change touch neither entries nor transfers? -/
structure IsSetUp (before after : Ledger) : Prop where
  change : Change before after
  entries : after.entries = before.entries
  transfers : after.transfers = before.transfers

theorem entries_of_setUp {before after : Ledger}
    (setUp : Relation.ReflTransGen IsSetUp before after) : after.entries = before.entries := by
  induction setUp with
  | refl => rfl
  | tail _ last ih => rw [last.entries, ih]

end Ledger

namespace World

/-- Does the ledger change by writes only? -/
def Evolves (before after : World) : Prop :=
  before.ledger.Evolves after.ledger

/-- What a call keeps that neither records entries nor moves money. -/
structure Prepares (before after : World) : Prop extends Follows before after where
  setUp : Relation.ReflTransGen Ledger.IsSetUp before.ledger after.ledger

instance : IsKept Prepares :=
  ⟨fun world => ⟨Follows.refl world, .refl⟩, fun first second =>
    ⟨first.toFollows.trans second.toFollows, first.setUp.trans second.setUp⟩⟩

theorem Rests.prepares {before after : World} (rests : before.Rests after) :
    before.Prepares after :=
  ⟨rests.toFollows, by rw [rests.ledger]⟩

/-- What a call keeps that prepares something else than bindings: accounts are opened at the moment
that the clock shows. -/
structure Furnishes (before after : World) : Prop extends Prepares before after where
  bindings : after.ledger.bindings = before.ledger.bindings
  opens : Ledger.Opens before.now before.ledger after.ledger

instance : IsKept Furnishes where
  refl world := ⟨IsKept.refl world, rfl, Ledger.opens_of_origins_eq _ rfl⟩
  trans first second :=
    ⟨IsKept.trans first.toPrepares second.toPrepares, second.bindings.trans first.bindings,
      first.opens.trans (first.now ▸ second.opens)⟩

theorem Rests.furnishes {before after : World} (rests : before.Rests after) :
    before.Furnishes after :=
  ⟨rests.prepares, by rw [rests.ledger], Ledger.opens_of_origins_eq _ (by rw [rests.ledger])⟩

end World

namespace Call

variable {Answer : Type} {call : Call Answer}

/-- A call that changes the ledger by writes only. -/
abbrev Evolves (call : Call Answer) : Prop :=
  Respects World.Evolves call

/-- A call that neither records entries nor moves money. -/
abbrev Prepares (call : Call Answer) : Prop :=
  Respects World.Prepares call

theorem Reads.prepares (reads : Reads call) : Prepares call :=
  fun world => (reads world).prepares

/-- A call that prepares something else than bindings. -/
abbrev Furnishes (call : Call Answer) : Prop :=
  Respects World.Furnishes call

theorem Reads.furnishes (reads : Reads call) : Furnishes call :=
  fun world => (reads world).furnishes

/-- What holds of the ledger whenever a call succeeds, and where nothing has changed, holds however
the call ends. -/
theorem Restores.holds_worldAfter (restores : Restores call) (holds : World → Ledger → Prop)
    (same : ∀ world, holds world world.ledger)
    (done : ∀ world answer after, call world = .ok answer after → holds world after.ledger)
    (world : World) : holds world (call.worldAfter world).ledger := by
  cases run : call world with
  | ok answer after =>
      rw [worldAfter_of_ok run]
      exact done world answer after run
  | error failure after =>
      rw [worldAfter_of_error run, restores run]
      exact same world

/-- A call leaves the bindings alone when it does so whenever it succeeds, and all tables when it
fails. -/
theorem Restores.bindings_worldAfter (restores : Restores call)
    (done : ∀ world answer after, call world = .ok answer after →
      after.ledger.bindings = world.ledger.bindings) (world : World) :
    (call.worldAfter world).ledger.bindings = world.ledger.bindings :=
  restores.holds_worldAfter (fun world later => later.bindings = world.ledger.bindings)
    (fun _ => rfl) done world

/-- A call leaves the accounts as they are but for what they hold when it does so whenever it
succeeds, and all tables when it fails. -/
theorem Restores.emptied_worldAfter (restores : Restores call)
    (done : ∀ world answer after, call world = .ok answer after →
      after.ledger.emptied = world.ledger.emptied) (world : World) :
    (call.worldAfter world).ledger.emptied = world.ledger.emptied :=
  restores.holds_worldAfter (fun world later => later.emptied = world.ledger.emptied)
    (fun _ => rfl) done world

theorem Prepares.furnishes (prepares : Prepares call) (restores : Restores call)
    (bindings : ∀ world answer after, call world = .ok answer after →
      after.ledger.bindings = world.ledger.bindings)
    (opens : ∀ world answer after, call world = .ok answer after →
      Ledger.Opens world.now world.ledger after.ledger) : Furnishes call :=
  fun world => ⟨prepares world, restores.bindings_worldAfter bindings world,
    restores.holds_worldAfter (fun world later => Ledger.Opens world.now world.ledger later)
      (fun _ => Ledger.opens_of_origins_eq _ rfl) opens world⟩

/-- A unit of work that makes one change, of neither entries nor transfers, when it succeeds. -/
theorem prepares_of_change {work : Call Answer} (proceeds : Proceeds work)
    (done : ∀ world answer after, work world = .ok answer after →
      Ledger.IsSetUp world.ledger after.ledger) : Prepares (atomically work) := by
  intro world
  refine ⟨proceeds_atomically proceeds world, ?_⟩
  cases run : atomically work world with
  | ok answer after =>
      rcases atomically_eq_ok run with ⟨ended, worked, committed⟩
      rw [worldAfter_of_ok run, committed.ledger]
      exact .single (done world answer ended worked)
  | error failure after =>
      rw [worldAfter_of_error run, ledger_of_atomically_error run]

/-- A call that makes one change when it succeeds and none when it fails. -/
theorem evolves_of_change (restores : Restores call)
    (done : ∀ world answer after, call world = .ok answer after →
      Ledger.Change world.ledger after.ledger) : Evolves call := by
  intro world
  unfold World.Evolves
  cases run : call world with
  | ok answer after =>
      rw [worldAfter_of_ok run]
      exact .single (done world answer after run)
  | error failure after =>
      rw [worldAfter_of_error run, restores run]

end Call

/-! ## Writes -/

theorem Binding.prepares_assign (owner chat : String) : Prepares (Binding.assign owner chat) := by
  apply prepares_of_change (respects_ledger.bind fun _ => (proceeds_putLedger _).bind fun _ =>
    respects_pure _)
  rintro world id after ⟨⟩
  exact ⟨.bound owner chat world.ledger, rfl, rfl⟩

theorem Binding.prepares_deactivate (id : Int) : Prepares (Binding.deactivate id) :=
  (reads_checkWord id).prepares.bind fun _ world =>
    ⟨proceeds_changeLedger _ world, .single ⟨.released id world.ledger, rfl, rfl⟩⟩

theorem Account.prepares_create (owner name : String) (kind : AccountKind) (opening : Decimal) :
    Prepares (Account.create owner name kind opening) := by
  intro world
  refine ⟨(Account.atomic_create owner name kind opening).proceeds world, ?_⟩
  cases run : Account.create owner name kind opening world with
  | ok id after =>
      rcases Account.create_eq_ok run with ⟨rfl, amount, stored, changed⟩
      rw [worldAfter_of_ok run, changed]
      exact .single ⟨.opened stored owner name kind world.now world.ledger, rfl, rfl⟩
  | error failure after =>
      rw [worldAfter_of_error run, ledger_of_atomically_error run]

theorem Account.furnishes_create (owner name : String) (kind : AccountKind) (opening : Decimal) :
    Furnishes (Account.create owner name kind opening) := by
  refine (prepares_create owner name kind opening).furnishes (restores_atomically _) ?_ ?_
  · intro world id after run
    rcases create_eq_ok run with ⟨-, amount, -, changed⟩
    rw [changed]
  · intro world id after run
    rcases create_eq_ok run with ⟨rfl, amount, -, changed⟩
    rw [changed]
    refine ⟨[Ledger.nextId (world.ledger.accounts.map Account.id)], ?_, ?_⟩
    · rw [Ledger.map_fst_origins]
      exact Ledger.AreNew.cons (fun _ => Ledger.lt_nextId) (Ledger.areNew_nil _)
    · rw [Ledger.origins, List.map_append]
      rfl

theorem Account.furnishes_deactivate (id : Int) : Furnishes (Account.deactivate id) := by
  refine (reads_checkWord id).furnishes.bind fun _ world =>
    ⟨⟨proceeds_changeLedger _ world, .single ⟨.closed id world.ledger, rfl, rfl⟩⟩, rfl, ?_⟩
  apply Ledger.opens_of_origins_eq
  change List.map _ (List.map _ world.ledger.accounts) = List.map _ world.ledger.accounts
  rw [List.map_map, List.map_inj_left]
  intro account _
  by_cases here : account.id = id <;> simp [here]

/-- A new card has the limit that it was written with. -/
theorem Card.create_eq_ok {owner name brand : String} {limit : Decimal} {closingDay dueDay id : Int}
    {world after : World}
    (run : Card.create owner name brand limit closingDay dueDay world = .ok id after) :
    id = Ledger.nextId (world.ledger.cards.map Card.id) ∧ ∃ amount,
      Stored.ofDecimal? limit = some amount
      ∧ after.ledger = { world.ledger with
          cards := world.ledger.cards
            ++ [⟨id, owner, name, brand, amount, closingDay, dueDay, true⟩] } := by
  rcases atomically_eq_ok run with ⟨ended, work, committed⟩
  rw [committed.ledger]
  rcases bind_eq_ok_iff.mp work with ⟨_, _, quiet, later⟩
  obtain ⟨-, rfl⟩ := checkQuiet_eq_ok_iff.mp quiet
  rcases bind_eq_ok_iff.mp later with ⟨_, _, closing, rest⟩
  obtain ⟨-, rfl⟩ := checkWord_eq_ok_iff.mp closing
  rcases bind_eq_ok_iff.mp rest with ⟨_, _, due, last⟩
  obtain ⟨-, rfl⟩ := checkWord_eq_ok_iff.mp due
  rcases bind_eq_ok_iff.mp last with ⟨amount, _, store, write⟩
  rcases storable_eq_ok_iff.mp store with ⟨stored, rfl⟩
  cases write
  exact ⟨rfl, amount, stored, rfl⟩

theorem Card.prepares_create (owner name brand : String) (limit : Decimal)
    (closingDay dueDay : Int) :
    Prepares (Card.create owner name brand limit closingDay dueDay) := by
  have proceeds : Proceeds (Card.create owner name brand limit closingDay dueDay) :=
    proceeds_atomically <| (reads_checkQuiet _).proceeds.bind fun _ =>
      (reads_checkWord _).proceeds.bind fun _ => (reads_checkWord _).proceeds.bind fun _ =>
        (reads_storable _ _).proceeds.bind fun _ => respects_ledger.bind fun _ =>
          (proceeds_putLedger _).bind fun _ => respects_pure _
  intro world
  refine ⟨proceeds world, ?_⟩
  cases run : Card.create owner name brand limit closingDay dueDay world with
  | ok id after =>
      rcases Card.create_eq_ok run with ⟨rfl, amount, stored, changed⟩
      rw [worldAfter_of_ok run, changed]
      exact .single ⟨.issued stored owner name brand closingDay dueDay world.ledger, rfl, rfl⟩
  | error failure after =>
      rw [worldAfter_of_error run, ledger_of_atomically_error run]

theorem Card.furnishes_create (owner name brand : String) (limit : Decimal)
    (closingDay dueDay : Int) :
    Furnishes (Card.create owner name brand limit closingDay dueDay) := by
  refine (prepares_create owner name brand limit closingDay dueDay).furnishes
    (restores_atomically _) ?_ ?_
  · intro world id after run
    rcases create_eq_ok run with ⟨-, amount, -, changed⟩
    rw [changed]
  · intro world id after run
    rcases create_eq_ok run with ⟨-, amount, -, changed⟩
    exact Ledger.opens_of_origins_eq _ (by rw [changed]; rfl)

/-- A new category is the one that was asked for. -/
theorem Category.create_eq_ok {owner name : String} {kind : CategoryKind} {id : Int}
    {world after : World} (run : Category.create owner name kind world = .ok id after) :
    id = Ledger.nextId (world.ledger.categories.map Category.id)
      ∧ after.ledger = { world.ledger with
          categories := world.ledger.categories ++ [⟨id, owner, name, kind⟩] } := by
  rcases atomically_eq_ok run with ⟨ended, worked, committed⟩
  cases worked
  exact ⟨rfl, committed.ledger⟩

theorem Category.prepares_create (owner name : String) (kind : CategoryKind) :
    Prepares (Category.create owner name kind) := by
  apply prepares_of_change (respects_ledger.bind fun _ => (proceeds_putLedger _).bind fun _ =>
    respects_pure _)
  rintro world id after ⟨⟩
  exact ⟨.named owner name kind world.ledger, rfl, rfl⟩

theorem Category.furnishes_create (owner name : String) (kind : CategoryKind) :
    Furnishes (Category.create owner name kind) := by
  refine (prepares_create owner name kind).furnishes (restores_atomically _) ?_ ?_
  · intro world id after run
    rw [(create_eq_ok run).2]
  · intro world id after run
    exact Ledger.opens_of_origins_eq _ (by rw [(create_eq_ok run).2]; rfl)

theorem Entry.evolves_record (entries : List NewEntry) : Evolves (Entry.record entries) := by
  apply evolves_of_change (restores_record entries)
  intro world ids after run
  obtain ⟨-, -, -, -, -, -, -, new, -⟩ := record_eq_ok run
  exact .recorded (recorded_of_record_eq_ok run) new

theorem Transfer.evolves_perform (movement : Movement) (description : String) (date : Date) :
    Evolves (perform movement description date) :=
  evolves_of_change (restores_atomically _) fun _ _ _ run => .moved (effect_of_perform_eq_ok run)

end Cashbook
