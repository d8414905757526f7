import Cashbook.Proofs.Evolution
import Cashbook.Proofs.Intake
import Cashbook.Proofs.Isolation

/-!
# Chats as a map

A chat speaks for the owner that it was bound to last, unless its binding was switched off since.
What was bound and switched off is told by the answers of the calls that succeeded, one after
another; the table of bindings reflects it after every step, whatever else was asked for and
wherever storage failed.
-/

namespace Cashbook

open Call

/-! ## What becomes of bindings -/

/-- What becomes of a binding. -/
inductive BindingEvent where
  /-- A chat was bound to an owner, in the row of this number. -/
  | bound (owner chat : String) (id : Int)
  /-- The binding in the row of this number was switched off. -/
  | released (id : Int)
deriving DecidableEq

variable {events : List BindingEvent} {bindings : List Binding} {owner chat : String} {id : Int}

/-- Is it the event of binding this chat? -/
def BindingEvent.Binds (chat : String) : BindingEvent → Prop
  | .bound _ other _ => other = chat
  | .released _ => False

/-- The last time that a chat was bound is one event. -/
theorem BindingEvent.eq_of_last {earlier later front back : List BindingEvent}
    {event other : BindingEvent} (same : earlier ++ event :: later = front ++ other :: back)
    (binds : event.Binds chat) (other_binds : other.Binds chat)
    (last : ∀ row ∈ later, ¬ row.Binds chat) (other_last : ∀ row ∈ back, ¬ row.Binds chat) :
    event = other ∧ later = back := by
  have apart : ∀ {middle tail rest : List BindingEvent} {first second : BindingEvent},
      second.Binds chat → (∀ row ∈ tail, ¬ row.Binds chat) →
      first :: tail = middle ++ second :: rest → first = second ∧ tail = rest := by
    intro middle tail rest first second second_binds tail_last parts_eq
    cases middle with
    | nil => exact List.cons.inj parts_eq
    | cons head middle =>
        obtain ⟨-, rfl⟩ := List.cons.inj parts_eq
        exact absurd second_binds (tail_last second (List.mem_append_right _ List.mem_cons_self))
  rcases List.append_eq_append_iff.mp same with ⟨middle, -, parts_eq⟩ | ⟨middle, -, parts_eq⟩
  · exact apart other_binds last parts_eq
  · rcases apart binds other_last parts_eq with ⟨rfl, rfl⟩
    exact ⟨rfl, rfl⟩

/-- Was a chat bound to an owner last, and its binding not switched off since? -/
def SpeaksFor (events : List BindingEvent) (chat owner : String) : Prop :=
  ∃ id earlier later, events = earlier ++ .bound owner chat id :: later
    ∧ (∀ event ∈ later, ¬ event.Binds chat) ∧ .released id ∉ later

/-- Does a row tell whom its chat was bound to last, and whether it was switched off since? -/
def Binding.Records (binding : Binding) (events : List BindingEvent) : Prop :=
  ∃ earlier later, events = earlier ++ .bound binding.owner binding.chat binding.id :: later
    ∧ (∀ event ∈ later, ¬ event.Binds binding.chat)
    ∧ (binding.active = true ↔ .released binding.id ∉ later)

namespace Binding

/-- A row that has just been written tells of nothing else. -/
theorem records_bound (events : List BindingEvent) (owner chat : String) (id : Int) :
    Records ⟨id, owner, chat, true⟩ (events ++ [.bound owner chat id]) :=
  ⟨events, [], rfl, by simp, by simp⟩

variable {binding : Binding}

/-- A row still tells the truth after another chat was bound. -/
theorem Records.append_bound (records : binding.Records events) (other : chat ≠ binding.chat)
    (owner : String) (id : Int) : binding.Records (events ++ [.bound owner chat id]) := by
  rcases records with ⟨earlier, later, rfl, last, active⟩
  refine ⟨earlier, later ++ [.bound owner chat id], by simp, ?_, by simp [active]⟩
  exact List.forall_mem_append.mpr ⟨last, List.forall_mem_singleton.mpr other⟩

/-- A row tells the truth after a binding was switched off. -/
theorem Records.append_released (records : binding.Records events) (id : Int) :
    (if binding.id = id then { binding with active := false } else binding).Records
      (events ++ [.released id]) := by
  rcases records with ⟨earlier, later, rfl, last, active⟩
  have unbound : ∀ event ∈ later ++ [.released id], ¬ event.Binds binding.chat :=
    List.forall_mem_append.mpr ⟨last, List.forall_mem_singleton.mpr not_false⟩
  split_ifs with same
  · exact ⟨earlier, later ++ [.released id], by simp, unbound, by simp [same]⟩
  · exact ⟨earlier, later ++ [.released id], by simp, unbound, by simp [active, same]⟩

/-- A chat speaks for the owner in its row while the row is switched on. -/
theorem Records.speaksFor_iff (records : binding.Records events) :
    SpeaksFor events binding.chat owner ↔ binding.owner = owner ∧ binding.active = true := by
  rcases records with ⟨earlier, later, events_eq, last, active⟩
  constructor
  · rintro ⟨id, front, back, same, back_last, kept⟩
    rcases BindingEvent.eq_of_last (events_eq.symm.trans same) rfl rfl last back_last with
      ⟨same_event, rfl⟩
    obtain ⟨own, -, same_id⟩ := BindingEvent.bound.inj same_event
    exact ⟨own, active.mpr (same_id ▸ kept)⟩
  · rintro ⟨rfl, on⟩
    exact ⟨binding.id, earlier, later, events_eq, last, active.mp on⟩

end Binding

/-- Does the table of bindings hold one row for each chat that was bound, which tells of the last
time? -/
structure Reflects (bindings : List Binding) (events : List BindingEvent) : Prop where
  chats : (bindings.map Binding.chat).Nodup
  ids : (bindings.map Binding.id).Nodup
  records : ∀ binding ∈ bindings, binding.Records events
  kept : ∀ owner chat id, .bound owner chat id ∈ events →
    ∃ binding ∈ bindings, binding.chat = chat ∧ binding.id = id

/-- Where each chat has one row, only this row is looked for. -/
theorem Binding.eq_of_chat_eq (chats : (bindings.map Binding.chat).Nodup) {binding : Binding}
    (member : binding ∈ bindings) :
    ∀ other ∈ bindings, other.chat = binding.chat → other = binding :=
  fun _ inside same => List.inj_on_of_nodup_map chats inside member same

namespace Binding

/-- Where each chat has one row, binding it again changes this row. -/
theorem assigned_of_mem (chats : (bindings.map Binding.chat).Nodup)
    (ids : (bindings.map Binding.id).Nodup) {binding : Binding} (member : binding ∈ bindings)
    (owner : String) :
    assigned owner binding.chat bindings = (binding.id, bindings.map fun other =>
      if other.chat = binding.chat then ⟨binding.id, owner, binding.chat, true⟩ else other) := by
  have only := eq_of_chat_eq chats member
  have found : bindings.find? (fun other => other.chat = binding.chat) = some binding :=
    Ledger.find?_eq_some_of_unique member (decide_eq_true rfl) fun other inside same =>
      only other inside (of_decide_eq_true same)
  rw [assigned, found]
  refine congrArg (Prod.mk binding.id) (List.map_congr_left fun other inside => ?_)
  by_cases same : other.chat = binding.chat
  · obtain rfl := only other inside same
    rw [if_pos rfl, if_pos rfl]
  · have apart : other.id ≠ binding.id := fun same_id =>
      same (congrArg Binding.chat (List.inj_on_of_nodup_map ids inside member same_id))
    rw [if_neg apart, if_neg same]

/-- A chat that is bound for the first time gets a new row. -/
theorem assigned_of_not_mem (absent : chat ∉ bindings.map Binding.chat) (owner : String) :
    assigned owner chat bindings = (Ledger.nextId (bindings.map Binding.id),
      bindings ++ [⟨Ledger.nextId (bindings.map Binding.id), owner, chat, true⟩]) := by
  have missing : bindings.find? (fun other => other.chat = chat) = none := by
    rw [List.find?_eq_none]
    intro other inside same
    exact absent (of_decide_eq_true same ▸ List.mem_map_of_mem inside)
  rw [assigned, missing]

end Binding

namespace Reflects

/-- Before anything is bound the table is empty. -/
theorem nil : Reflects [] [] :=
  ⟨List.nodup_nil, List.nodup_nil, by simp, by simp⟩

/-- The table reflects an event that changes rows, but neither their chats nor their numbers. -/
theorem changed (reflects : Reflects bindings events) {change : Binding → Binding}
    {event : BindingEvent}
    (same : ∀ row ∈ bindings, (change row).chat = row.chat ∧ (change row).id = row.id)
    (told : ∀ row ∈ bindings, (change row).Records (events ++ [event]))
    (known : ∀ owner chat id, event = .bound owner chat id →
      ∃ row ∈ bindings, row.chat = chat ∧ row.id = id) :
    Reflects (bindings.map change) (events ++ [event]) := by
  have same_chats : (bindings.map change).map Binding.chat = bindings.map Binding.chat := by
    rw [List.map_map]
    exact List.map_congr_left fun row member => (same row member).1
  have same_ids : (bindings.map change).map Binding.id = bindings.map Binding.id := by
    rw [List.map_map]
    exact List.map_congr_left fun row member => (same row member).2
  refine ⟨same_chats ▸ reflects.chats, same_ids ▸ reflects.ids, ?_, ?_⟩
  · intro row member
    rcases List.mem_map.mp member with ⟨other, inside, rfl⟩
    exact told other inside
  · intro owner chat id bound
    have row_before : ∃ row ∈ bindings, row.chat = chat ∧ row.id = id := by
      rcases List.mem_append.mp bound with earlier | now
      · exact reflects.kept owner chat id earlier
      · exact known owner chat id (List.mem_singleton.mp now).symm
    rcases row_before with ⟨row, inside, rfl, rfl⟩
    exact ⟨change row, List.mem_map_of_mem inside, same row inside⟩

/-- The table reflects that a chat is bound again. -/
theorem rebound (reflects : Reflects bindings events) {binding : Binding}
    (member : binding ∈ bindings) (owner : String) :
    Reflects (bindings.map fun other =>
        if other.chat = binding.chat then ⟨binding.id, owner, binding.chat, true⟩ else other)
      (events ++ [.bound owner binding.chat binding.id]) := by
  have only := Binding.eq_of_chat_eq reflects.chats member
  refine reflects.changed (fun row inside => ?_) (fun row inside => ?_) ?_
  · split_ifs with same
    · rw [only row inside same]
      exact ⟨rfl, rfl⟩
    · exact ⟨rfl, rfl⟩
  · split_ifs with same
    · exact Binding.records_bound events owner binding.chat binding.id
    · exact (reflects.records row inside).append_bound (Ne.symm same) owner binding.id
  · rintro _ _ _ ⟨⟩
    exact ⟨binding, member, rfl, rfl⟩

/-- The table reflects that a binding is switched off. -/
theorem released (reflects : Reflects bindings events) (id : Int) :
    Reflects (bindings.map fun binding =>
        if binding.id = id then { binding with active := false } else binding)
      (events ++ [.released id]) := by
  refine reflects.changed (fun row _ => ?_) (fun row inside => ?_) nofun
  · split_ifs
    · exact ⟨rfl, rfl⟩
    · exact ⟨rfl, rfl⟩
  · exact (reflects.records row inside).append_released id

/-- The table reflects that a chat is bound for the first time. -/
theorem added (reflects : Reflects bindings events) (absent : chat ∉ bindings.map Binding.chat)
    (owner : String) :
    Reflects (bindings ++ [⟨Ledger.nextId (bindings.map Binding.id), owner, chat, true⟩])
      (events ++ [.bound owner chat (Ledger.nextId (bindings.map Binding.id))]) := by
  have new_id : Ledger.nextId (bindings.map Binding.id) ∉ bindings.map Binding.id :=
    fun member => lt_irrefl _ (Ledger.lt_nextId member)
  refine ⟨?_, ?_, ?_, ?_⟩
  · rw [List.map_append]
    exact reflects.chats.append (List.nodup_singleton _) (by simpa using absent)
  · rw [List.map_append]
    exact reflects.ids.append (List.nodup_singleton _) (by simpa using new_id)
  · intro row row_member
    rcases List.mem_append.mp row_member with inside | new
    · have other : chat ≠ row.chat := fun same => absent (same ▸ List.mem_map_of_mem inside)
      exact (reflects.records row inside).append_bound other owner _
    · rw [List.mem_singleton.mp new]
      exact Binding.records_bound events owner chat _
  · intro other_owner other_chat id known
    rcases List.mem_append.mp known with earlier | now
    · rcases reflects.kept other_owner other_chat id earlier with ⟨row, inside, told⟩
      exact ⟨row, List.mem_append_left _ inside, told⟩
    · obtain ⟨-, rfl, rfl⟩ := BindingEvent.bound.inj (List.mem_singleton.mp now)
      exact ⟨_, List.mem_append_right _ (List.mem_singleton_self _), rfl, rfl⟩

/-- The table reflects that a chat is bound. -/
theorem bound (reflects : Reflects bindings events) (owner chat : String) :
    Reflects (Binding.assigned owner chat bindings).2
      (events ++ [.bound owner chat (Binding.assigned owner chat bindings).1]) := by
  by_cases known : chat ∈ bindings.map Binding.chat
  · rcases List.mem_map.mp known with ⟨binding, member, rfl⟩
    rw [Binding.assigned_of_mem reflects.chats reflects.ids member]
    exact reflects.rebound member owner
  · rw [Binding.assigned_of_not_mem known]
    exact reflects.added known owner

/-- A chat that speaks for an owner has an active row of this owner. -/
theorem exists_of_speaksFor (reflects : Reflects bindings events)
    (speaks : SpeaksFor events chat owner) :
    ∃ binding ∈ bindings, binding.chat = chat ∧ binding.owner = owner
      ∧ binding.active = true := by
  have known : ∃ id, .bound owner chat id ∈ events := by
    rcases speaks with ⟨id, earlier, later, rfl, -⟩
    exact ⟨id, List.mem_append_right _ List.mem_cons_self⟩
  rcases known with ⟨id, known⟩
  rcases reflects.kept owner chat id known with ⟨binding, member, rfl, -⟩
  exact ⟨binding, member, rfl, (reflects.records binding member).speaksFor_iff.mp speaks⟩

/-- What is looked up for a chat is the row of the owner that it speaks for. -/
theorem find?_iff (reflects : Reflects bindings events) (chat owner : String) :
    (bindings.find? fun binding => binding.chat = chat ∧ binding.active).map Binding.owner
      = some owner ↔ SpeaksFor events chat owner := by
  constructor
  · intro found
    rcases Option.map_eq_some_iff.mp found with ⟨binding, look, rfl⟩
    have wanted := List.find?_some look
    obtain ⟨rfl, active⟩ := of_decide_eq_true wanted
    exact (reflects.records binding (List.mem_of_find?_eq_some look)).speaksFor_iff.mpr
      ⟨rfl, active⟩
  · intro speaks
    rcases reflects.exists_of_speaksFor speaks with ⟨binding, member, rfl, rfl, active⟩
    rw [Ledger.find?_eq_some_of_unique member (by simp [active])]
    · rfl
    · intro other inside wanted
      exact Binding.eq_of_chat_eq reflects.chats member other inside (of_decide_eq_true wanted).1

/-- A chat is always bound in the same row. -/
theorem eq_of_bound (reflects : Reflects bindings events) {other : String} {otherId : Int}
    (first : .bound owner chat id ∈ events) (second : .bound other chat otherId ∈ events) :
    otherId = id := by
  rcases reflects.kept owner chat id first with ⟨binding, member, rfl, rfl⟩
  rcases reflects.kept other binding.chat otherId second with ⟨row, inside, same, rfl⟩
  rw [Binding.eq_of_chat_eq reflects.chats member row inside same]

/-- Binding a chat leaves the rows of all other chats alone. -/
theorem mem_assigned_iff (reflects : Reflects bindings events) {binding : Binding}
    (other : binding.chat ≠ chat) (owner : String) :
    binding ∈ (Binding.assigned owner chat bindings).2 ↔ binding ∈ bindings := by
  by_cases known : chat ∈ bindings.map Binding.chat
  · rcases List.mem_map.mp known with ⟨row, member, rfl⟩
    rw [Binding.assigned_of_mem reflects.chats reflects.ids member, List.mem_map]
    constructor
    · rintro ⟨before, inside, rfl⟩
      by_cases same : before.chat = row.chat
      · rw [if_pos same] at other
        exact absurd rfl other
      · rw [if_neg same]
        exact inside
    · intro inside
      exact ⟨binding, inside, if_neg other⟩
  · rw [Binding.assigned_of_not_mem known, List.mem_append, List.mem_singleton]
    refine or_iff_left fun new => other ?_
    rw [new]

end Reflects

/-! ## One step -/

/-- Posting a draft leaves the bindings alone. -/
theorem EntryDraft.bindings_post (draft : EntryDraft) (context : OwnerContext) (world : World) :
    ((draft.post context).worldAfter world).ledger.bindings = world.ledger.bindings := by
  refine (restores_post draft context).bindings_worldAfter (fun world text after run => ?_) world
  obtain ⟨account, entries, ids, -, -, record, -⟩ := post_eq_ok run
  rw [(Entry.recorded_of_record_eq_ok record).frame, ledger_named]

theorem Entry.bindings_record (entries : List NewEntry) (world : World) :
    ((Entry.record entries).worldAfter world).ledger.bindings = world.ledger.bindings := by
  refine (restores_record entries).bindings_worldAfter (fun world ids after run => ?_) world
  rw [(recorded_of_record_eq_ok run).frame]

theorem Transfer.bindings_perform (movement : Movement) (description : String) (date : Date)
    (world : World) :
    ((perform movement description date).worldAfter world).ledger.bindings
      = world.ledger.bindings := by
  refine (restores_atomically _).bindings_worldAfter (fun world id after run => ?_) world
  have effect := effect_of_perform_eq_ok run
  generalize after.ledger = ledger at effect
  cases effect
  rfl

/-- Bindings stay as they are unless a chat is bound or a binding switched off. -/
theorem isSteady_bindings (bindings : List Binding) :
    IsSteady (fun world => world.ledger.bindings = bindings) fun _ => True where
  furnishes furnished started := furnished.bindings.trans started
  posts _ _ := fun world _ started => (EntryDraft.bindings_post _ _ world).trans started
  moves _ := fun world started => (Transfer.bindings_perform _ _ _ world).trans started
  rivals _ _ _ := trivial
  requests _ := trivial

theorem Operation.bindings_call {operation : Operation} (unbinding : operation.binds? = none)
    (unreleasing : operation.releases? = none) (world : World) :
    (operation.call.worldAfter world).ledger.bindings = world.ledger.bindings :=
  (isSteady_bindings world.ledger.bindings).maintains_operation
    (fun _ _ bound => absurd bound (by simp [unbinding]))
    (fun _ released => absurd released (by simp [unreleasing]))
    (fun entries _ later started => (Entry.bindings_record entries later).trans started)
    (fun draft context later started => (draft.bindings_post context later).trans started) world rfl

section

variable {world after : World}

/-- A call that binds a chat writes what the table is assigned. -/
theorem Binding.assign_eq_ok (run : assign owner chat world = .ok id after) :
    id = (assigned owner chat world.ledger.bindings).1
      ∧ after.ledger.bindings = (assigned owner chat world.ledger.bindings).2 := by
  rcases atomically_eq_ok run with ⟨ended, worked, committed⟩
  cases worked
  rw [committed.ledger]
  exact ⟨rfl, rfl⟩

/-- What became of bindings when a chat was to be bound. -/
def Binding.assignment (owner chat : String) (world : World) : Option BindingEvent :=
  ((assign owner chat).answer world).toOption.map (.bound owner chat)

/-- What became of bindings when one was to be switched off. -/
def Binding.release (id : Int) (world : World) : Option BindingEvent :=
  ((deactivate id).answer world).toOption.map fun _ => .released id

/-- The table reflects an attempt to bind a chat. -/
theorem Reflects.assign (reflects : Reflects world.ledger.bindings events)
    (owner chat : String) :
    Reflects ((Binding.assign owner chat).worldAfter world).ledger.bindings
      (events ++ (Binding.assignment owner chat world).toList) := by
  unfold Binding.assignment Call.answer
  cases run : Binding.assign owner chat world with
  | ok id after =>
      rcases Binding.assign_eq_ok run with ⟨rfl, bindings_eq⟩
      rw [worldAfter_of_ok run, bindings_eq]
      exact reflects.bound owner chat
  | error failure after =>
      rw [worldAfter_of_error run, ledger_of_atomically_error run]
      exact (List.append_nil events).symm ▸ reflects

/-- The table reflects an attempt to switch a binding off. -/
theorem Reflects.release (reflects : Reflects world.ledger.bindings events) (id : Int) :
    Reflects ((Binding.deactivate id).worldAfter world).ledger.bindings
      (events ++ (Binding.release id world).toList) := by
  unfold Binding.release Call.answer
  cases run : Binding.deactivate id world with
  | ok done after =>
      rcases bind_eq_ok_iff.mp run with ⟨_, middle, word, changed⟩
      obtain ⟨-, rfl⟩ := checkWord_eq_ok_iff.mp word
      cases changed
      rw [worldAfter_of_ok run]
      exact reflects.released id
  | error failure after =>
      have kept : after.ledger = world.ledger := by
        rcases bind_eq_error_iff.mp run with word | ⟨_, middle, -, changed⟩
        · exact ((reads_checkWord id).of_error word).ledger
        · cases changed
      rw [worldAfter_of_error run, kept]
      exact (List.append_nil events).symm ▸ reflects

end

/-- Telling what was done changes nothing more. -/
theorem CommandLine.worldAfter_said {Answer : Type} (work : Call Answer) (line : Answer → Ending)
    (world : World) :
    (orRefused (work >>= fun answer => pure (line answer))).worldAfter world
      = work.worldAfter world := by
  unfold orRefused worldAfter
  rw [tryCatch_apply]
  cases run : work world with
  | ok answer after => rw [bind_of_ok run, pure_apply]
  | error failure after =>
      rw [bind_of_error run]
      dsimp only
      cases failure.family <;> rfl

theorem Call.worldAfter_map {Answer Next : Type} (change : Answer → Next) (call : Call Answer)
    (world : World) : (change <$> call).worldAfter world = call.worldAfter world := by
  rw [map_eq_bind]
  unfold worldAfter
  cases run : call world with
  | ok answer after => rw [bind_of_ok run, pure_apply]
  | error failure after => rw [bind_of_error run]

/-- A command that binds a chat does what the call for it does. -/
theorem CommandLine.worldAfter_run {environment : Environment} {words : List String}
    (binds : binds? environment words = some (owner, chat)) (site : Site) (world : World) :
    (run environment site words).worldAfter world
      = (Binding.assign owner chat).worldAfter world := by
  rcases Option.bind_eq_some_iff.mp binds with ⟨invocation, was_read, asked⟩
  have read := eq_ok_of_toOption was_read
  rw [run, read, worldAfter_map]
  rcases invocation with ⟨given, databaseUrl, command⟩
  unfold Invocation.binds? at asked
  dsimp only at asked
  split at asked
  next other named =>
    obtain ⟨rfl, rfl⟩ := Prod.mk.inj (Option.some.inj asked)
    simp only [Invocation.run, withOwner, named]
    exact worldAfter_said _ _ world
  next => cases asked

namespace Operation

variable {operation : Operation}

theorem worldAfter_of_binds? (binds : operation.binds? = some (owner, chat)) (world : World) :
    operation.call.worldAfter world = (Binding.assign owner chat).worldAfter world := by
  cases operation with
  | bindChat other_owner other_chat =>
      cases binds
      exact worldAfter_map _ _ world
  | command environment site words =>
      exact (worldAfter_map _ _ world).trans (CommandLine.worldAfter_run binds site world)
  | _ => cases binds

theorem worldAfter_of_releases? (releases : operation.releases? = some id) (world : World) :
    operation.call.worldAfter world = (Binding.deactivate id).worldAfter world := by
  cases operation with
  | deactivateBinding other =>
      cases releases
      exact worldAfter_map _ _ world
  | _ => cases releases

/-- What becomes of bindings by an operation. -/
def bindingEvent? (operation : Operation) (world : World) : Option BindingEvent :=
  match operation.binds?, operation.releases? with
  | some (owner, chat), _ => Binding.assignment owner chat world
  | none, some id => Binding.release id world
  | none, none => none

/-- The table reflects every operation. -/
theorem reflects_call (operation : Operation) {world : World}
    (reflects : Reflects world.ledger.bindings events) :
    Reflects (operation.call.worldAfter world).ledger.bindings
      (events ++ (operation.bindingEvent? world).toList) := by
  unfold bindingEvent?
  cases binds : operation.binds? with
  | some pair =>
      rw [worldAfter_of_binds? binds]
      exact reflects.assign pair.1 pair.2
  | none =>
      cases releases : operation.releases? with
      | some id =>
          rw [worldAfter_of_releases? releases]
          exact reflects.release id
      | none =>
          rw [bindings_call binds releases]
          exact (List.append_nil events).symm ▸ reflects

end Operation

/-! ## Runs -/

/-- What becomes of bindings by a step. -/
def Step.bindingEvent? (step : Step) (world : World) : Option BindingEvent :=
  match step with
  | .wait .. => none
  | .ask operation => operation.bindingEvent? world

namespace World

/-- What becomes of bindings by steps, one after another. -/
def bindingEvents (world : World) : List Step → List BindingEvent
  | [] => []
  | step :: rest =>
      (step.bindingEvent? world).toList ++ (step.call.worldAfter world).bindingEvents rest

/-- The table reflects all steps together. -/
theorem reflects_later (world : World) (steps : List Step)
    (reflects : Reflects world.ledger.bindings events) :
    Reflects (world.later steps).ledger.bindings (events ++ world.bindingEvents steps) := by
  induction steps generalizing world events with
  | nil => exact (List.append_nil events).symm ▸ reflects
  | cons step rest ih =>
      have stepped : Reflects (step.call.worldAfter world).ledger.bindings
          (events ++ (step.bindingEvent? world).toList) := by
        cases step with
        | wait today now fault => exact (List.append_nil events).symm ▸ reflects
        | ask operation => exact operation.reflects_call reflects
      rw [bindingEvents, ← List.append_assoc]
      exact ih _ stepped

/-- Are chats a map to the owners that they were bound to last? -/
structure BindsLast (world : World) (events : List BindingEvent) : Prop where
  /-- A chat has one row at most. -/
  chats : (world.ledger.bindings.map Binding.chat).Nodup
  /-- What is found for a chat is the owner that it speaks for, or nothing. -/
  finds : world.fault = none → ∀ chat, ∃ found, Binding.find chat world = .ok found world
    ∧ ∀ owner, found.map Binding.owner = some owner ↔ SpeaksFor events chat owner
  /-- Every call that bound a chat was answered with the same number. -/
  numbers : ∀ chat owner id other otherId, .bound owner chat id ∈ events →
    .bound other chat otherId ∈ events → otherId = id
  /-- Binding a chat leaves the rows of the other chats alone. -/
  apart : ∀ owner chat binding, binding.chat ≠ chat →
    (binding ∈ ((Binding.assign owner chat).worldAfter world).ledger.bindings
      ↔ binding ∈ world.ledger.bindings)
  /-- A message from a chat that speaks for an owner changes no row of anybody else. -/
  spares : ∀ (message : Chat.Message) rules chat owner, message.chat = some chat →
    SpeaksFor events chat owner → ∃ reply after, Chat.handle message rules world = .ok reply after
      ∧ world.ledger.SparesOthers owner after.ledger
  /-- A message from a chat that speaks for an owner is answered by the rows of this owner alone. -/
  alike : world.fault = none → ∀ (message : Chat.Message) rules chat owner,
    message.chat = some chat → SpeaksFor events chat owner →
    ∀ other : Ledger, world.ledger.Agrees owner other → (other.bindings.map Binding.chat).Nodup →
      ∃ reply after otherAfter, Chat.handle message rules world = .ok reply after
        ∧ Chat.handle message rules { world with ledger := other } = .ok reply otherAfter
        ∧ other.SparesOthers owner otherAfter.ledger

/-- A message from a chat that speaks for an owner finds no binding of anybody else. -/
theorem own_of_speaksFor {world : World} (reflects : Reflects world.ledger.bindings events)
    {message : Chat.Message} (from_chat : message.chat = some chat)
    (speaks : SpeaksFor events chat owner) :
    ∀ binding ∈ message.binding? world.ledger, binding.owner = owner := by
  intro binding bound
  rw [Chat.Message.binding?, from_chat] at bound
  change (if chat = "" then none else _) = some binding at bound
  split_ifs at bound
  have owned := (reflects.find?_iff chat owner).mpr speaks
  rw [bound] at owned
  exact Option.some.inj owned

/-- A table that reflects what became of bindings is a map. -/
theorem bindsLast_of_reflects {world : World}
    (reflects : Reflects world.ledger.bindings events) : world.BindsLast events where
  chats := reflects.chats
  finds faultless chat := by
    refine ⟨_, bind_of_ok (failAt_of_faultless faultless _ _), fun owner => ?_⟩
    exact reflects.find?_iff chat owner
  numbers _ _ _ _ _ first second := reflects.eq_of_bound first second
  apart owner chat binding other := by
    cases run : Binding.assign owner chat world with
    | ok id after =>
        rw [worldAfter_of_ok run, (Binding.assign_eq_ok run).2]
        exact reflects.mem_assigned_iff other owner
    | error failure after => rw [worldAfter_of_error run, ledger_of_atomically_error run]
  spares message rules chat owner from_chat speaks := by
    rcases Chat.exists_handle_eq_ok message rules world with ⟨reply, after, run⟩
    exact ⟨reply, after, run,
      Chat.sparesOthers_handle (own_of_speaksFor reflects from_chat speaks) run⟩
  alike faultless message rules chat owner from_chat speaks other agrees distinct := by
    rcases reflects.exists_of_speaksFor speaks with ⟨binding, member, rfl, own, active⟩
    have agreed := Chat.Message.agrees_of_mem agrees member own active from_chat reflects.chats
      distinct
    rcases Chat.handle_alike message rules faultless agreed with
      ⟨reply, after, otherAfter, run, other_run, -, spared⟩
    exact ⟨reply, after, otherAfter, run, other_run, spared⟩

/-- Whatever is asked for, in whatever order and wherever storage fails, chats are a map to the
owners that they were bound to last. -/
theorem bindsLast_later (today : Date) (now : Instant) (steps : List Step) :
    ((start today now).later steps).BindsLast ((start today now).bindingEvents steps) :=
  bindsLast_of_reflects (reflects_later (start today now) steps .nil)

/-- A chat moves from Ana to Bruno and is switched off.  It cannot be bound to Carla since the
commit fails, and Bruno has it back once it is bound to him again at the command line. -/
def handedOver : List Step :=
  [.ask (.bindChat "ana" "7"), .ask (.bindChat "ana" "8"), .ask (.bindChat "bruno" "7"),
    .ask (.deactivateBinding 1), .wait newYear.today newYear.now (some { point := .commit }),
    .ask (.bindChat "carla" "7"),
    .ask (.command [] ⟨none, "/home/bruno"⟩ ["--owner", "bruno", "bind", "7"])]

theorem bindingEvents_handedOver :
    (start newYear.today newYear.now).bindingEvents handedOver
      = [.bound "ana" "7" 1, .bound "ana" "8" 2, .bound "bruno" "7" 1, .released 1,
        .bound "bruno" "7" 1] := by
  decide +kernel

/-- In the end the chat speaks for Bruno. -/
theorem bindsLast_later_handedOver :
    ∃ found, Binding.find "7" ((start newYear.today newYear.now).later handedOver)
        = .ok found ((start newYear.today newYear.now).later handedOver)
      ∧ found.map Binding.owner = some "bruno" := by
  have last := bindsLast_later newYear.today newYear.now handedOver
  rcases last.finds (by decide +kernel) "7" with ⟨found, run, speaks⟩
  refine ⟨found, run, (speaks "bruno").mpr ?_⟩
  rw [bindingEvents_handedOver]
  exact ⟨1, [.bound "ana" "7" 1, .bound "ana" "8" 2, .bound "bruno" "7" 1, .released 1], [],
    rfl, by simp, by simp⟩

end World

end Cashbook
