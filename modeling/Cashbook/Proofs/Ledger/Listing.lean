import Cashbook.Ledger.Entries
import Cashbook.Proofs.Calls.Failing
import Mathlib.Data.List.Sort

/-!
# Listing entries

Listing gives the selected entries of an owner in an order that depends on their dates and numbers
only.  So leaving out some of them gives the same list as not selecting them.
-/

namespace Cashbook

open Call

/-- Sorting keeps what is left out apart: it may be left out before or after. -/
theorem filter_mergeSort {Item : Type} {before : Item → Item → Bool}
    (trans : ∀ first second third, before first second = true → before second third = true →
      before first third = true)
    (total : ∀ first second, (before first second || before second first) = true)
    (keeps : Item → Bool) (items : List Item) :
    (items.mergeSort before).filter keeps = (items.filter keeps).mergeSort before := by
  induction items with
  | nil => simp
  | cons item rest ih =>
      obtain ⟨earlier, later, sorted_eq, rest_eq, apart⟩ :=
        List.mergeSort_cons trans total item rest
      by_cases kept : keeps item = true
      · -- Both lists are cut where the new item stands: what is before it does not follow it.
        obtain ⟨front, back, kept_eq, back_eq, front_apart⟩ :=
          List.mergeSort_cons trans total item (rest.filter keeps)
        have sorted := List.pairwise_mergeSort trans total (item :: rest)
        have kept_sorted := List.pairwise_mergeSort trans total (item :: rest.filter keeps)
        rw [sorted_eq, List.pairwise_append, List.pairwise_cons] at sorted
        rw [kept_eq, List.pairwise_append, List.pairwise_cons] at kept_sorted
        have same : earlier.filter keeps ++ later.filter keeps = front ++ back := by
          rw [← List.filter_append, ← rest_eq, ih, back_eq]
        have cut : ∀ {left right : List Item}, (∀ other ∈ left, (!before item other) = true) →
            (∀ other ∈ right, before item other = true) →
            (left ++ right).filter (fun other => !before item other) = left := by
          intro left right left_apart right_later
          have none_later : right.filter (fun other => !before item other) = [] := by
            rw [List.filter_eq_nil_iff]
            intro other member
            simp [right_later other member]
          rw [List.filter_append, List.filter_eq_self.mpr left_apart, none_later, List.append_nil]
        have same_front : earlier.filter keeps = front := by
          rw [← cut (fun other member => apart other (List.mem_of_mem_filter member))
            (fun other member => sorted.2.1.1 other (List.mem_of_mem_filter member)), same,
            cut front_apart kept_sorted.2.1.1]
        rw [same_front] at same
        rw [List.filter_cons_of_pos kept, sorted_eq, kept_eq, List.filter_append,
          List.filter_cons_of_pos kept, same_front, List.append_cancel_left same]
      · rw [List.filter_cons_of_neg kept, sorted_eq, List.filter_append,
          List.filter_cons_of_neg kept, ← List.filter_append, ← rest_eq, ih]

/-- What passes on to all that stands earlier holds of a first part of a list in order. -/
theorem filter_append_filter_not {Item : Type} {before : Item → Item → Prop}
    {keeps : Item → Bool} {items : List Item} (sorted : items.Pairwise before)
    (earlier : ∀ first second, before first second → keeps second = true → keeps first = true) :
    items.filter keeps ++ items.filter (fun item => !keeps item) = items := by
  induction items with
  | nil => rfl
  | cons item rest ih =>
      rw [List.pairwise_cons] at sorted
      by_cases kept : keeps item = true
      · rw [List.filter_cons_of_pos kept, List.filter_cons_of_neg (by simp [kept]),
          List.cons_append, ih sorted.2]
      · have none_kept : rest.filter keeps = [] := by
          rw [List.filter_eq_nil_iff]
          exact fun other member other_kept => kept (earlier _ _ (sorted.1 other member) other_kept)
        have all_left : ∀ other ∈ item :: rest, (!keeps other) = true := by
          rw [List.forall_mem_cons]
          refine ⟨by simp [kept], fun other member => ?_⟩
          rw [Bool.not_eq_true', ← Bool.not_eq_true]
          exact List.filter_eq_nil_iff.mp none_kept other member
        rw [List.filter_cons_of_neg kept, none_kept, List.nil_append,
          List.filter_eq_self.mpr all_left]

/-- What is found first in a list in order comes before everything else that could be found. -/
theorem eq_or_before_of_find? {Item : Type} {before : Item → Item → Prop} {keeps : Item → Bool}
    {items : List Item} {found other : Item} (sorted : items.Pairwise before)
    (look : items.find? keeps = some found) (member : other ∈ items)
    (kept : keeps other = true) : other = found ∨ before found other := by
  rcases List.find?_eq_some_iff_append.mp look with ⟨-, skipped, rest, rfl, none_kept⟩
  rw [List.pairwise_append, List.pairwise_cons] at sorted
  rcases List.mem_append.mp member with early | late
  · have refused := none_kept other early
    simp [kept] at refused
  · exact (List.mem_cons.mp late).imp_right (sorted.2.1.1 other)

namespace Entry

variable {ledger : Ledger} {owner : String} {selection : Selection} {entry : Entry}

theorem listedBefore_iff {first second : Entry} :
    listedBefore first second = true ↔
      first.date.rank < second.date.rank
        ∨ first.date.rank = second.date.rank ∧ first.id ≤ second.id := by
  simp [listedBefore]

theorem listedBefore_trans (first second third : Entry)
    (former : listedBefore first second = true) (latter : listedBefore second third = true) :
    listedBefore first third = true := by
  rw [listedBefore_iff] at *
  omega

theorem listedBefore_total (first second : Entry) :
    (listedBefore first second || listedBefore second first) = true := by
  rw [Bool.or_eq_true, listedBefore_iff, listedBefore_iff]
  omega

/-- What is selected is in the ledger, belongs to the owner and is admitted. -/
theorem mem_selected_iff :
    entry ∈ selected ledger owner selection ↔
      entry ∈ ledger.entries ∧ entry.owner = owner ∧ selection.admits entry = true := by
  simp [selected, List.mem_mergeSort]

/-- Selected entries with a property are those of the ledger with it, in the same order. -/
theorem filter_selected (ledger : Ledger) (owner : String) (selection : Selection)
    (keeps : Entry → Bool) :
    (selected ledger owner selection).filter keeps
      = (ledger.entries.filter fun entry =>
          keeps entry && decide (entry.owner = owner ∧ selection.admits entry)).mergeSort
        listedBefore := by
  rw [selected, filter_mergeSort listedBefore_trans listedBefore_total, List.filter_filter]

end Entry

end Cashbook
