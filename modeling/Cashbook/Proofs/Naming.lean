import Cashbook.Posting.Post
import Cashbook.Proofs.Ledger.TwoRuns
import Mathlib.Logic.Function.Basic
import Mathlib.Tactic.ByContra

/-!
# Names of series

A series of installments is given a name that no other has, and nothing but equality of names ever
counts.  So a call does the same, up to names, in a world that has given more names already: what
comes out is the same with its names exchanged.
-/

namespace Cashbook

open Call Money

/-! ## Renamings -/

/-- The name that a series is given. -/
def groupName (count : Nat) : String :=
  "group-" ++ Wording.number count

theorem groupName_injective : Function.Injective groupName := by
  intro first second same
  have digits : Nat.toDigits 10 first = Nat.toDigits 10 second := by
    have texts := congrArg String.toList same
    have unsigned : ∀ count : Nat, ¬((count : Int) < 0) := fun count => by omega
    simpa [groupName, Wording.number, Integer.toText, unsigned] using texts
  calc
    first = Nat.ofDigitChars 10 (Nat.toDigits 10 first) 0 := Nat.ofDigitChars_ten_toDigits.symm
    _ = Nat.ofDigitChars 10 (Nat.toDigits 10 second) 0 := by rw [digits]
    _ = second := Nat.ofDigitChars_ten_toDigits

/-- Is the name still to be given, after the first ones? -/
def IsComing (first : Nat) (name : String) : Prop :=
  ∃ count, first < count ∧ name = groupName count

/-- Fewer names are still to be given once more are given. -/
theorem IsComing.mono {first later : Nat} {name : String} (le : first ≤ later)
    (coming : IsComing later name) : IsComing first name := by
  rcases coming with ⟨count, above, rfl⟩
  exact ⟨count, le.trans_lt above, rfl⟩

/-- An exchange of names that moves all names to come on by so many. -/
structure Renaming (first shift : Nat) where
  /-- The new name. -/
  rename : String → String
  /-- No two names become one. -/
  injective : Function.Injective rename
  /-- The names to come are moved on. -/
  rename_groupName : ∀ count, first < count → rename (groupName count) = groupName (count + shift)
  /-- Every other name is kept. -/
  rename_of_not_coming : ∀ name, ¬IsComing first name → rename name = name

open Classical in
/-- Names can be moved on. -/
theorem nonempty_renaming (first shift : Nat) : Nonempty (Renaming first shift) := by
  let rename : String → String := fun name =>
    if coming : IsComing first name then groupName (coming.choose + shift) else name
  have moved : ∀ count, first < count → rename (groupName count) = groupName (count + shift) := by
    intro count above
    have coming : IsComing first (groupName count) := ⟨count, above, rfl⟩
    have same := groupName_injective coming.choose_spec.2
    simp only [rename, dif_pos coming, ← same]
  have kept : ∀ name, ¬IsComing first name → rename name = name := by
    intro name old
    simp only [rename, dif_neg old]
  have coming_moved : ∀ count, first < count → IsComing first (groupName (count + shift)) :=
    fun count above => ⟨count + shift, by omega, rfl⟩
  refine ⟨⟨rename, ?_, moved, kept⟩⟩
  intro name other same
  by_cases coming : IsComing first name <;> by_cases other_coming : IsComing first other
  · rcases coming with ⟨count, above, rfl⟩
    rcases other_coming with ⟨otherCount, other_above, rfl⟩
    rw [moved count above, moved otherCount other_above] at same
    rw [Nat.add_right_cancel (groupName_injective same)]
  · rcases coming with ⟨count, above, rfl⟩
    rw [moved count above, kept other other_coming] at same
    exact absurd (same ▸ coming_moved count above) other_coming
  · rcases other_coming with ⟨otherCount, other_above, rfl⟩
    rw [moved otherCount other_above, kept name coming] at same
    exact absurd (same ▸ coming_moved otherCount other_above) coming
  · rwa [kept name coming, kept other other_coming] at same

namespace Renaming

variable {first shift : Nat} (exchange : Renaming first shift)

/-- The place in a series with the new name. -/
def installment (place : Installment) : Installment :=
  { place with group := place.group.map exchange.rename }

/-- The entry with the new name. -/
def entry (entry : Entry) : Entry :=
  { entry with installment := exchange.installment entry.installment }

/-- The new entry with the new name. -/
def newEntry (entry : NewEntry) : NewEntry :=
  { entry with installment := exchange.installment entry.installment }

/-- The selection with the new name. -/
def selection (selection : Entry.Selection) : Entry.Selection :=
  { selection with group := selection.group.map exchange.rename }

/-- The ledger with the new names. -/
def ledger (ledger : Ledger) : Ledger :=
  { ledger with entries := ledger.entries.map exchange.entry }

/-- The world with the new names, where so many more have been given. -/
def world (world : World) : World :=
  { world with
    ledger := exchange.ledger world.ledger
    groupsNamed := world.groupsNamed + shift }

/-- The result with the new names. -/
def result {Answer Other : Type} (change : Answer → Other) :
    EStateM.Result Failure World Answer → EStateM.Result Failure World Other
  | .ok answer after => .ok (change answer) (exchange.world after)
  | .error failure after => .error failure (exchange.world after)

/-- Where all names are kept nothing changes. -/
theorem ledger_eq (exchange : Renaming first shift) {ledger : Ledger}
    (kept : ∀ entry ∈ ledger.entries, ∀ name, entry.installment.group = some name →
      exchange.rename name = name) :
    exchange.ledger ledger = ledger := by
  have entry_eq : ∀ entry ∈ ledger.entries, exchange.entry entry = entry := by
    intro entry member
    have group_eq : entry.installment.group.map exchange.rename = entry.installment.group := by
      cases group : entry.installment.group with
      | none => rfl
      | some name => rw [Option.map_some, kept entry member name group]
    rw [Renaming.entry, installment, group_eq]
  rw [Renaming.ledger, List.map_congr_left entry_eq, List.map_id']

/-- Names that are moved on by nothing are kept. -/
theorem rename_of_zero (exchange : Renaming first 0) (name : String) :
    exchange.rename name = name := by
  by_cases coming : IsComing first name
  · rcases coming with ⟨count, above, rfl⟩
    exact exchange.rename_groupName count above
  · exact exchange.rename_of_not_coming name coming

/-! ## Calls that do the same up to names -/

/-- Does one call do with the new names what another one does with the old ones? -/
def Matches {Answer Other : Type} (change : Answer → Other) (call : Call Answer)
    (other : Call Other) : Prop :=
  ∀ world : World, first ≤ world.groupsNamed →
    other (exchange.world world) = exchange.result change (call world)
      ∧ first ≤ (call.worldAfter world).groupsNamed

/-- Does a call do the same whatever the names? -/
abbrev Ignores {Answer : Type} (call : Call Answer) : Prop :=
  exchange.Matches id call call

variable {exchange} {Answer Other Next OtherNext : Type} {change : Answer → Other}
  {call : Call Answer} {other : Call Other}

/-- Does the second world differ from the first one in the names to come? -/
def Relates (exchange : Renaming first shift) (world other : World) : Prop :=
  first ≤ world.groupsNamed ∧ other = exchange.world world

/-- Calls do the same up to names if they end alike in worlds that differ in the names to come. -/
theorem matches_iff : exchange.Matches change call other ↔
    Parallel exchange.Relates (fun answer otherAnswer => change answer = otherAnswer)
      exchange.Relates call other := by
  constructor
  · rintro same world _ ⟨started, rfl⟩
    rcases same world started with ⟨other_run, later⟩
    rw [other_run]
    unfold worldAfter at later
    generalize call world = outcome at later
    cases outcome with
    | ok answer after => exact .ok rfl ⟨later, rfl⟩
    | error failure after => exact .error ⟨later, rfl⟩
  · intro same world started
    have alike := same ⟨started, rfl⟩
    unfold worldAfter
    generalize call world = result, other (exchange.world world) = otherResult at alike
    cases alike with
    | ok told left =>
        rcases left with ⟨later, rfl⟩
        subst told
        exact ⟨rfl, later⟩
    | error left =>
        rcases left with ⟨later, rfl⟩
        exact ⟨rfl, later⟩

theorem matches_pure (answer : Answer) :
    exchange.Matches change (pure answer) (pure (change answer)) :=
  matches_iff.mpr (parallel_pure rfl)

theorem matches_throw (failure : Failure) :
    exchange.Matches change (throw failure) (throw failure) :=
  matches_iff.mpr (parallel_throw failure)

theorem matches_get : exchange.Matches exchange.world get get :=
  fun _ started => ⟨rfl, started⟩

theorem matches_ledger : exchange.Matches exchange.ledger Call.ledger Call.ledger :=
  fun _ started => ⟨rfl, started⟩

theorem matches_putLedger (ledger : Ledger) :
    exchange.Matches id (putLedger ledger) (putLedger (exchange.ledger ledger)) :=
  fun _ started => ⟨rfl, started⟩

theorem ignores_changeLedger {change : Ledger → Ledger}
    (same : ∀ ledger, change (exchange.ledger ledger) = exchange.ledger (change ledger)) :
    exchange.Ignores (changeLedger change) := by
  intro world started
  refine ⟨?_, started⟩
  rw [changeLedger_apply, changeLedger_apply]
  simp only [result, Renaming.world, id_eq, same]

/-- Steps one after another do the same up to names if each step does. -/
theorem Matches.bind {next : Answer → Call Next} {otherNext : Other → Call OtherNext}
    {nextChange : Next → OtherNext} (step : exchange.Matches change call other)
    (rest : ∀ answer, exchange.Matches nextChange (next answer) (otherNext (change answer))) :
    exchange.Matches nextChange (call >>= next) (other >>= otherNext) := by
  refine matches_iff.mpr ((matches_iff.mp step).bind ?_)
  rintro answer _ rfl
  exact matches_iff.mp (rest answer)

theorem Matches.map {nextChange : Next → OtherNext} {convert : Answer → Next}
    {otherConvert : Other → OtherNext} (step : exchange.Matches change call other)
    (same : ∀ answer, otherConvert (change answer) = nextChange (convert answer)) :
    exchange.Matches nextChange (convert <$> call) (otherConvert <$> other) := by
  refine matches_iff.mpr ((matches_iff.mp step).map ?_)
  rintro answer _ rfl
  exact (same answer).symm

theorem Matches.ite {condition : Prop} [Decidable condition] {second : Call Answer}
    {otherSecond : Call Other} (yes : exchange.Matches change call other)
    (no : exchange.Matches change second otherSecond) :
    exchange.Matches change (if condition then call else second)
      (if condition then other else otherSecond) :=
  matches_iff.mpr ((matches_iff.mp yes).ite (matches_iff.mp no))

theorem Matches.tryCatch {handler : Failure → Call Answer} {otherHandler : Failure → Call Other}
    (step : exchange.Matches change call other)
    (rescue : ∀ failure, exchange.Matches change (handler failure) (otherHandler failure)) :
    exchange.Matches change (tryCatch call handler) (tryCatch other otherHandler) :=
  matches_iff.mpr ((matches_iff.mp step).tryCatch fun failure => matches_iff.mp (rescue failure))

theorem matches_forM {Item OtherItem : Type} {rename : Item → OtherItem}
    {work : Item → Call PUnit} {otherWork : OtherItem → Call PUnit} (items : List Item)
    (same : ∀ item, exchange.Matches id (work item) (otherWork (rename item))) :
    exchange.Matches id (items.forM work) ((items.map rename).forM otherWork) :=
  matches_iff.mpr <| parallel_forM <| List.forall₂_map_right_iff.mpr <|
    List.forall₂_same.mpr fun item _ => matches_iff.mp (same item)

theorem matches_mapM {Item OtherItem : Type} {rename : Item → OtherItem}
    {work : Item → Call Answer} {otherWork : OtherItem → Call Answer} (items : List Item)
    (same : ∀ item, exchange.Matches id (work item) (otherWork (rename item))) :
    exchange.Matches id (items.mapM work) ((items.map rename).mapM otherWork) := by
  induction items with
  | nil => exact matches_pure _
  | cons item rest ih =>
      rw [List.map_cons, List.mapM_cons, List.mapM_cons]
      exact (same item).bind fun _ => ih.bind fun _ => matches_pure _

/-! ## Places where storage may fail, checks and units of work -/

theorem ignores_visit (point : FaultPoint) : exchange.Ignores (visit point) := by
  intro world started
  unfold worldAfter visit
  cases armed : world.fault with
  | none => simp [Renaming.world, result, armed, started]
  | some fault =>
      simp only [Renaming.world, armed]
      split_ifs <;> simp [result, Renaming.world, armed, started]

theorem ignores_failAt (point : FaultPoint) (failure : Failure) :
    exchange.Ignores (failAt point failure) :=
  (ignores_visit point).bind fun _ => .ite (matches_throw failure) (matches_pure ())

theorem ignores_checkWord (number : Int) : exchange.Ignores (checkWord number) :=
  matches_iff.mpr (keeps_checkWord number)

theorem ignores_checkWord? (number : Option Int) : exchange.Ignores (checkWord? number) :=
  matches_iff.mpr (keeps_checkWord? number)

theorem ignores_checkQuiet (amount : Decimal) : exchange.Ignores (checkQuiet amount) :=
  matches_iff.mpr (keeps_checkQuiet amount)

theorem ignores_storable (column : String) (amount : Decimal) :
    exchange.Ignores (storable column amount) :=
  matches_iff.mpr (keeps_storable column amount)

theorem ignores_storedResult (column : String) (result : Option Stored) :
    exchange.Ignores (storedResult column result) :=
  matches_iff.mpr (keeps_storedResult column result)

theorem ignores_ofArithmetic (result : Except Decimal.ArithmeticError Answer) :
    exchange.Ignores (ofArithmetic result) :=
  matches_iff.mpr (keeps_ofArithmetic result)

theorem ignores_ofCalendar (result : Except CalendarError Answer) :
    exchange.Ignores (ofCalendar result) :=
  matches_iff.mpr (keeps_ofCalendar result)

/-- Units of work do the same up to names if the work does. -/
theorem Matches.atomically (work : exchange.Matches change call other) :
    exchange.Matches change (atomically call) (Call.atomically other) := by
  refine matches_iff.mpr (Parallel.atomically (matches_iff.mp (ignores_failAt _ _)) ?_
    (matches_iff.mp work))
  rintro world _ ended _ ⟨-, rfl⟩ ⟨later, rfl⟩
  exact ⟨later, rfl⟩

end Renaming

end Cashbook
