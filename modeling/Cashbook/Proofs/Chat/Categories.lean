import Cashbook.Proofs.Chat.Confirmation
import Cashbook.Proofs.Evolution
import Cashbook.Proofs.Ledger.Listing
import Mathlib.Data.String.Basic

/-!
# The category of an expense in a chat

Categories are listed by their names, so a hint gives the first by name of those that it can mean,
and the one with the least number among those of this name.  Which name that is depends on the
names of the owner's categories for expenses only: neither the order in which they were written
matters nor what else the ledger holds.
-/

namespace Cashbook

open Call Text

variable {ledger first second : Ledger} {owner name : String} {hint : List Char}
  {category other : Category} {chosen otherChosen : Option Category} {world : World}

/-! ## The order of categories -/

namespace Category

/-- Does a category not come behind another, by name and by number where the names agree? -/
def IsNoLaterThan (category other : Category) : Prop :=
  category.name < other.name ∨ category.name = other.name ∧ category.id ≤ other.id

instance (category other : Category) : Decidable (category.IsNoLaterThan other) :=
  inferInstanceAs (Decidable (_ ∨ _))

theorem listedBefore_iff :
    listedBefore category other = true ↔ category.IsNoLaterThan other := by
  simp [listedBefore, IsNoLaterThan]

theorem IsNoLaterThan.refl (category : Category) : category.IsNoLaterThan category :=
  .inr ⟨rfl, le_rfl⟩

/-- A category that is no later has no greater name. -/
theorem IsNoLaterThan.name_le (noLater : category.IsNoLaterThan other) :
    category.name ≤ other.name :=
  noLater.elim le_of_lt fun same => same.1.le

theorem listedBefore_trans (first second third : Category)
    (former : listedBefore first second = true) (latter : listedBefore second third = true) :
    listedBefore first third = true := by
  rw [listedBefore_iff] at *
  rcases former with less | ⟨same, le⟩
  · exact .inl (less.trans_le latter.name_le)
  · rcases latter with less | ⟨also_same, also_le⟩
    · exact .inl (same ▸ less)
    · exact .inr ⟨same.trans also_same, le.trans also_le⟩

theorem listedBefore_total (first second : Category) :
    (listedBefore first second || listedBefore second first) = true := by
  rw [Bool.or_eq_true, listedBefore_iff, listedBefore_iff]
  rcases lt_trichotomy first.name second.name with less | same | greater
  · exact .inl (.inl less)
  · rcases le_total first.id second.id with le | ge
    · exact .inl (.inr ⟨same, le⟩)
    · exact .inr (.inr ⟨same.symm, ge⟩)
  · exact .inr (.inl greater)

theorem mem_allOf_iff :
    category ∈ allOf ledger owner ↔ category ∈ ledger.categories ∧ category.owner = owner := by
  rw [allOf, List.mem_mergeSort, List.mem_filter, decide_eq_true_iff]

/-- Categories are listed by name. -/
theorem pairwise_allOf (ledger : Ledger) (owner : String) :
    (allOf ledger owner).Pairwise IsNoLaterThan :=
  (List.pairwise_mergeSort listedBefore_trans listedBefore_total _).imp listedBefore_iff.mp

/-! ## What a hint can mean -/

/-- Is this a category for expenses of an owner with a hint in its name, letter case aside? -/
structure IsMeant (category : Category) (owner : String) (hint : List Char) : Prop where
  owner : category.owner = owner
  kind : category.kind = .expense
  name : lower hint <:+: lower category.name.toList

instance (category : Category) (owner : String) (hint : List Char) :
    Decidable (category.IsMeant owner hint) :=
  decidable_of_iff (category.owner = owner ∧ category.kind = .expense
      ∧ occursIn (lower hint) (lower category.name.toList) = true)
    ⟨fun ⟨own, kind, name⟩ => ⟨own, kind, occursIn_iff.mp name⟩,
      fun meant => ⟨meant.owner, meant.kind, occursIn_iff.mpr meant.name⟩⟩

theorem isHinted_iff (own : category.owner = owner) :
    Chat.isHinted hint category = true ↔ category.IsMeant owner hint := by
  rw [Chat.isHinted, Bool.and_eq_true, beq_iff_eq, occursIn_iff]
  constructor
  · rintro ⟨kind, name⟩
    exact ⟨own, kind, name⟩
  · rintro ⟨-, kind, name⟩
    exact ⟨kind, name⟩

end Category

namespace Ledger

/-- The category that a hint gives among those of an owner. -/
def choice? (ledger : Ledger) (owner : String) (hint : List Char) : Option Category :=
  Chat.hintedCategory (Category.allOf ledger owner) hint

/-- A hint gives no category exactly where it can mean none. -/
theorem choice?_eq_none_iff (named : hint ≠ []) :
    ledger.choice? owner hint = none
      ↔ ∀ category ∈ ledger.categories, ¬category.IsMeant owner hint := by
  rw [choice?, Chat.hintedCategory, if_neg named, List.find?_eq_none]
  constructor
  · intro none_hinted category member meant
    exact none_hinted category (Category.mem_allOf_iff.mpr ⟨member, meant.owner⟩)
      ((Category.isHinted_iff meant.owner).mpr meant)
  · intro none_meant category listed hinted
    obtain ⟨member, own⟩ := Category.mem_allOf_iff.mp listed
    exact none_meant category member ((Category.isHinted_iff own).mp hinted)

/-- The category that a hint gives is one that it can mean, and no other such one comes before. -/
theorem choice?_eq_some (chosen : ledger.choice? owner hint = some category) :
    category ∈ ledger.categories ∧ category.IsMeant owner hint
      ∧ ∀ other ∈ ledger.categories, other.IsMeant owner hint → category.IsNoLaterThan other := by
  unfold choice? Chat.hintedCategory at chosen
  split_ifs at chosen
  obtain ⟨member, own⟩ := Category.mem_allOf_iff.mp (List.mem_of_find?_eq_some chosen)
  refine ⟨member, (Category.isHinted_iff own).mp (List.find?_some chosen), ?_⟩
  intro other other_member meant
  have listed := Category.mem_allOf_iff.mpr ⟨other_member, meant.owner⟩
  rcases eq_or_before_of_find? (Category.pairwise_allOf ledger owner) chosen listed
    ((Category.isHinted_iff meant.owner).mpr meant) with same | before
  · exact same ▸ .refl category
  · exact before

/-! ## Names -/

/-- The names that an owner gave to categories for expenses. -/
def expenseNames (ledger : Ledger) (owner : String) : List String :=
  (ledger.categories.filter fun category =>
    category.owner = owner ∧ category.kind = .expense).map Category.name

theorem mem_expenseNames_iff : name ∈ ledger.expenseNames owner
    ↔ ∃ category ∈ ledger.categories,
      category.owner = owner ∧ category.kind = .expense ∧ category.name = name := by
  simp [expenseNames, and_assoc]

/-- The same names mean the same, whichever categories have them. -/
theorem exists_isMeant_of_names (meant : category.IsMeant owner hint)
    (member : category ∈ first.categories)
    (names : first.expenseNames owner ⊆ second.expenseNames owner) :
    ∃ other ∈ second.categories, other.IsMeant owner hint ∧ other.name = category.name := by
  have given : category.name ∈ first.expenseNames owner :=
    mem_expenseNames_iff.mpr ⟨category, member, meant.owner, meant.kind, rfl⟩
  rcases mem_expenseNames_iff.mp (names given) with ⟨other, other_member, own, kind, same⟩
  exact ⟨other, other_member, ⟨own, kind, same ▸ meant.name⟩, same⟩

/-- The name that a hint chooses is the least among the names of another ledger, if these are
among the names it was chosen from. -/
theorem name_le_of_choice? (chosen : first.choice? owner hint = some category)
    (names : second.expenseNames owner ⊆ first.expenseNames owner)
    (member : other ∈ second.categories) (meant : other.IsMeant owner hint) :
    category.name ≤ other.name := by
  rcases exists_isMeant_of_names meant member names with ⟨same, here, also_meant, name_eq⟩
  exact name_eq ▸ ((choice?_eq_some chosen).2.2 same here also_meant).name_le

/-- Which name a hint chooses depends on the names only that the owner gave to categories for
expenses. -/
theorem map_name_choice?_eq (named : hint ≠ [])
    (names : ∀ name, name ∈ first.expenseNames owner ↔ name ∈ second.expenseNames owner) :
    (first.choice? owner hint).map Category.name
      = (second.choice? owner hint).map Category.name := by
  have forth : first.expenseNames owner ⊆ second.expenseNames owner := fun name => (names name).mp
  have back : second.expenseNames owner ⊆ first.expenseNames owner := fun name => (names name).mpr
  cases first_eq : first.choice? owner hint with
  | none =>
      cases second_eq : second.choice? owner hint with
      | none => rfl
      | some category =>
          obtain ⟨member, meant, -⟩ := choice?_eq_some second_eq
          rcases exists_isMeant_of_names meant member back with ⟨other, here, also_meant, -⟩
          exact absurd also_meant ((choice?_eq_none_iff named).mp first_eq other here)
  | some category =>
      obtain ⟨member, meant, -⟩ := choice?_eq_some first_eq
      cases second_eq : second.choice? owner hint with
      | none =>
          rcases exists_isMeant_of_names meant member forth with ⟨other, here, also_meant, -⟩
          exact absurd also_meant ((choice?_eq_none_iff named).mp second_eq other here)
      | some other =>
          obtain ⟨other_member, other_meant, -⟩ := choice?_eq_some second_eq
          have le := name_le_of_choice? first_eq back other_member other_meant
          have ge := name_le_of_choice? second_eq forth member meant
          exact congrArg some (le_antisymm le ge)

end Ledger

/-! ## Writing categories -/

/-- A category that is to be written. -/
structure NewCategory where
  /-- The owner. -/
  owner : String
  /-- Its name. -/
  name : String
  /-- What it sorts. -/
  kind : CategoryKind
deriving DecidableEq

/-- The step that writes a category. -/
def NewCategory.creation (category : NewCategory) : Step :=
  .ask (.createCategory category.owner category.name category.kind)

/-- Is a category to be one for expenses of an owner? -/
def NewCategory.isExpenseOf (owner : String) (category : NewCategory) : Bool :=
  category.owner = owner ∧ category.kind = .expense

/-- A category is written behind the others, unless the commit fails. -/
theorem NewCategory.exists_creation_eq (category : NewCategory)
    (committable : ∀ fault, world.fault = some fault → fault.point ≠ .commit) :
    ∃ id after, category.creation.call.worldAfter world = { world with ledger := after }
      ∧ after.categories = world.ledger.categories
        ++ [⟨id, category.owner, category.name, category.kind⟩] := by
  have written : Category.create category.owner category.name category.kind world = _ :=
    atomically_of_committable rfl committable
  exact ⟨_, _, worldAfter_of_ok (map_eq_ok_iff.mpr ⟨_, written, rfl⟩), rfl⟩

/-- The names for expenses after categories were written one after another. -/
theorem World.expenseNames_later (world : World) (new : List NewCategory) (owner : String)
    (committable : ∀ fault, world.fault = some fault → fault.point ≠ .commit) :
    (world.later (new.map NewCategory.creation)).ledger.expenseNames owner
      = world.ledger.expenseNames owner
        ++ (new.filter (NewCategory.isExpenseOf owner)).map NewCategory.name := by
  induction new generalizing world with
  | nil => simp [later]
  | cons category rest ih =>
      obtain ⟨id, after, written, appended⟩ := category.exists_creation_eq committable
      calc (world.later ((category :: rest).map NewCategory.creation)).ledger.expenseNames owner
          = (({ world with ledger := after } : World).later
              (rest.map NewCategory.creation)).ledger.expenseNames owner := by
            rw [← written]
            rfl
        _ = after.expenseNames owner
              ++ (rest.filter (NewCategory.isExpenseOf owner)).map NewCategory.name :=
            ih { world with ledger := after } committable
        _ = world.ledger.expenseNames owner
              ++ ((category :: rest).filter (NewCategory.isExpenseOf owner)).map
                NewCategory.name := by
            unfold Ledger.expenseNames
            rw [appended, List.filter_append, List.map_append, List.append_assoc]
            by_cases relevant : category.isExpenseOf owner = true
            · have row := of_decide_eq_true relevant
              simp [row, relevant]
            · have row := of_decide_eq_false (Bool.not_eq_true _ ▸ relevant)
              simp [row, relevant]

namespace Chat

variable {message : Message} {rules : List KeywordRule} {intent : Intent} {draft : EntryDraft}
  {categories : List Category} {reply : Reply} {after : World}

/-! ## Hints -/

/-- The hint by which what a message asks for is sorted: the one that a command gives, or else the
one that the keywords of a sentence give. -/
def Intent.hint? (rules : List KeywordRule) : Intent → Option (List Char)
  | addExpense _ _ hint => some hint
  | freeText text => (classify rules text).map String.toList
  | _ => none

/-- An expense that a message asks for has the category that its hint gives. -/
theorem Intent.category_eq (asked : intent.draft? categories rules = some draft) :
    draft.category = (intent.hint? rules).bind (hintedCategory categories) := by
  cases intent with
  | addExpense amount description hint =>
      cases asked
      rfl
  | freeText text =>
      rw [(interpret_eq_ok (draft?_freeText_eq_some asked)).2, hint?, Option.bind_map]
      rfl
  | balance => cases asked
  | report => cases asked
  | help => cases asked
  | malformed complaint => cases asked

/-- What a message posts has the category that its hint gives among those of the chat's owner. -/
theorem Posted.exists_entry {today : Date} (posted : Posted message rules today first second) :
    ∃ binding entry, message.binding? first = some binding
      ∧ second.entries = first.entries ++ [entry]
      ∧ entry.category = (((Intent.ofText message.trimmed).hint? rules).bind
        (first.choice? binding.owner)).map Category.id := by
  obtain ⟨bound, asked, -, -, -, -, -, spent⟩ := posted
  obtain ⟨-, -, -, -⟩ := spent
  refine ⟨_, _, bound, rfl, ?_⟩
  exact congrArg (Option.map Category.id) (Intent.category_eq asked)

/-- A hint gives the category whose name comes first among those for expenses of the owner that
contain it, letter case aside, and of several with this name the one with the least number; it gives
none exactly where none contains it.  This category every expense has that a chat asks for by the
hint, and every entry that a chat posts.  Which name it has depends on the names of the owner's
categories for expenses only, so neither the order in which they are written matters nor what else
is written among them. -/
theorem category_is_first_by_name (named : hint ≠ []) (world : World) (owner : String) :
    (world.ledger.choice? owner hint = none
      ↔ ∀ category ∈ world.ledger.categories, ¬category.IsMeant owner hint)
    ∧ (∀ category, world.ledger.choice? owner hint = some category →
        category ∈ world.ledger.categories ∧ category.IsMeant owner hint
          ∧ ∀ other ∈ world.ledger.categories, other.IsMeant owner hint →
            category.IsNoLaterThan other)
    ∧ (∀ rules intent draft, Intent.hint? rules intent = some hint →
        intent.draft? (Category.allOf world.ledger owner) rules = some draft →
        draft.category = world.ledger.choice? owner hint)
    ∧ (∀ message rules reply after, handle message rules world = .ok reply after →
        after.ledger ≠ world.ledger →
        ∃ binding entry, message.binding? world.ledger = some binding
          ∧ after.ledger.entries = world.ledger.entries ++ [entry]
          ∧ (binding.owner = owner → (Intent.ofText message.trimmed).hint? rules = some hint →
            entry.category = (world.ledger.choice? owner hint).map Category.id))
    ∧ (∀ other : Ledger,
        (∀ name, name ∈ world.ledger.expenseNames owner ↔ name ∈ other.expenseNames owner) →
        (world.ledger.choice? owner hint).map Category.name
          = (other.choice? owner hint).map Category.name)
    ∧ ((∀ fault, world.fault = some fault → fault.point ≠ .commit) →
      ∀ new reordered : List NewCategory,
        (new.filter (NewCategory.isExpenseOf owner)).Perm
          (reordered.filter (NewCategory.isExpenseOf owner)) →
        let first := (world.later (new.map NewCategory.creation)).ledger
        let second := (world.later (reordered.map NewCategory.creation)).ledger
        first.expenseNames owner = world.ledger.expenseNames owner
          ++ (new.filter (NewCategory.isExpenseOf owner)).map NewCategory.name
        ∧ (first.choice? owner hint).map Category.name
          = (second.choice? owner hint).map Category.name) := by
  refine ⟨Ledger.choice?_eq_none_iff named, fun _ => Ledger.choice?_eq_some, ?_, ?_,
    fun _ => Ledger.map_name_choice?_eq named, ?_⟩
  · intro rules intent draft hinted asked
    rw [Intent.category_eq asked, hinted]
    rfl
  · intro message rules reply after run changed
    rcases (posted_of_handle_eq_ok run changed).exists_entry with
      ⟨binding, entry, bound, entries_eq, category_eq⟩
    refine ⟨binding, entry, bound, entries_eq, ?_⟩
    rintro rfl hinted
    rw [category_eq, hinted]
    rfl
  · intro committable new reordered same first second
    have names := world.expenseNames_later new owner committable
    refine ⟨names, Ledger.map_name_choice?_eq named fun name => ?_⟩
    rw [names, world.expenseNames_later reordered owner committable, List.mem_append,
      List.mem_append, (same.map NewCategory.name).mem_iff]

/-- Three categories, of which two can be meant by one hint. -/
def journeys : List NewCategory :=
  [⟨"ana", "Transporte", .expense⟩, ⟨"ana", "Mercado", .expense⟩,
    ⟨"ana", "Meu TRANSPORTE", .expense⟩]

/-- The same categories in another order, among one of income and one of another owner. -/
def journeysReordered : List NewCategory :=
  [⟨"bia", "A transportar", .expense⟩, ⟨"ana", "Meu TRANSPORTE", .expense⟩,
    ⟨"ana", "Ajuda de transporte", .income⟩, ⟨"ana", "Mercado", .expense⟩,
    ⟨"ana", "Transporte", .expense⟩]

theorem category_is_first_by_name_journeys :
    let written := (World.newYear.later (journeys.map NewCategory.creation)).ledger
    let rewritten := (World.newYear.later (journeysReordered.map NewCategory.creation)).ledger
    "Transp".toList ≠ []
      ∧ written.choice? "ana" "Transp".toList = some ⟨3, "ana", "Meu TRANSPORTE", .expense⟩
      ∧ (rewritten.choice? "ana" "Transp".toList).map Category.name = some "Meu TRANSPORTE" := by
  intro written rewritten
  have named : "Transp".toList ≠ [] := by decide
  have same := (category_is_first_by_name named World.newYear "ana").2.2.2.2.2 nofun journeys
    journeysReordered (by decide)
  obtain ⟨none_iff, first, -⟩ := category_is_first_by_name named
    (World.newYear.later (journeys.map NewCategory.creation)) "ana"
  have meant : Category.IsMeant ⟨3, "ana", "Meu TRANSPORTE", .expense⟩ "ana" "Transp".toList := by
    decide +kernel
  have last : ⟨3, "ana", "Meu TRANSPORTE", .expense⟩ ∈ written.categories := by decide +kernel
  have only : ∀ category ∈ written.categories, category.IsMeant "ana" "Transp".toList →
      category.IsNoLaterThan ⟨3, "ana", "Meu TRANSPORTE", .expense⟩ →
      category = ⟨3, "ana", "Meu TRANSPORTE", .expense⟩ := by
    decide +kernel
  have chosen : written.choice? "ana" "Transp".toList
      = some ⟨3, "ana", "Meu TRANSPORTE", .expense⟩ := by
    cases choice : written.choice? "ana" "Transp".toList with
    | none => exact absurd meant (none_iff.mp choice _ last)
    | some category =>
        obtain ⟨member, category_meant, least⟩ := first category choice
        rw [only category member category_meant (least _ last meant)]
  refine ⟨named, chosen, ?_⟩
  rw [← same.2, chosen]
  rfl

end Chat

end Cashbook
