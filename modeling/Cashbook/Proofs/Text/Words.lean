import Cashbook.Text.Blank
import Mathlib.Tactic.SplitIfs

/-!
# Words

A text is cut into words at every blank, so the words of two texts with a blank between them are
the words of both.  Words that are joined are the words of the joined text.
-/

namespace Cashbook.Text

variable {text left right word : List Char} {c : Char}

/-- Is a text one word: not empty, and without blanks? -/
structure IsWord (text : List Char) : Prop where
  ne_nil : text ≠ []
  visible : ∀ c ∈ text, isBlank c = false

instance (text : List Char) : Decidable (IsWord text) :=
  decidable_of_iff (text ≠ [] ∧ text.all (fun c => !isBlank c) = true)
    ⟨fun both => ⟨both.1, by simpa using both.2⟩, fun single =>
      ⟨single.ne_nil, by simpa using single.visible⟩⟩

/-- A line end is a blank. -/
theorem IsWord.newline_not_mem (single : IsWord text) : '\n' ∉ text :=
  fun member => Bool.false_ne_true ((single.visible _ member).symm.trans (by decide))

/-- What stands between two cuts is left over from the text, and nothing is cut there. -/
theorem sublist_and_visible_of_mem_splitOnP (member : word ∈ text.splitOnP isBlank) :
    word.Sublist text ∧ ∀ c ∈ word, isBlank c = false := by
  induction text generalizing word with
  | nil =>
      rw [List.splitOnP_nil, List.mem_singleton] at member
      subst member
      exact ⟨List.Sublist.refl [], List.forall_mem_nil _⟩
  | cons c rest ih =>
      rw [List.splitOnP_cons_eq_if_modifyHead] at member
      obtain ⟨first, others, parts⟩ :=
        List.exists_cons_of_ne_nil (List.splitOnP_ne_nil isBlank rest)
      have later : ∀ {other}, other ∈ first :: others →
          other.Sublist (c :: rest) ∧ ∀ d ∈ other, isBlank d = false := by
        intro other listed
        obtain ⟨part, visible⟩ := ih (parts ▸ listed)
        exact ⟨part.cons c, visible⟩
      split_ifs at member with blank
      · rcases List.mem_cons.mp member with rfl | listed
        · exact ⟨List.nil_sublist _, List.forall_mem_nil _⟩
        · exact later (parts ▸ listed)
      · rw [parts, List.modifyHead_cons] at member
        rcases List.mem_cons.mp member with rfl | listed
        · obtain ⟨part, visible⟩ := ih (parts ▸ List.mem_cons_self)
          exact ⟨part.cons_cons c,
            List.forall_mem_cons.mpr ⟨Bool.eq_false_iff.mpr blank, visible⟩⟩
        · exact later (List.mem_cons_of_mem _ listed)

theorem isWord_of_mem_words (member : word ∈ words text) : IsWord word where
  ne_nil := ne_nil_of_mem_words member
  visible := (sublist_and_visible_of_mem_splitOnP (List.mem_filter.mp member).1).2

/-- A word is no longer than its text. -/
theorem length_le_of_mem_words (member : word ∈ words text) : word.length ≤ text.length :=
  (sublist_and_visible_of_mem_splitOnP (List.mem_filter.mp member).1).1.length_le

/-- A text is cut at every blank. -/
theorem words_append_cons (blank : isBlank c = true) :
    words (left ++ c :: right) = words left ++ words right := by
  rw [words, List.splitOnP_append_cons _ _ blank, List.filter_append]
  rfl

theorem IsWord.words_eq (single : IsWord text) : words text = [text] := by
  rw [words, List.splitOnP_eq_singleton single.visible]
  simp [single.ne_nil]

/-- The words of texts that are joined are those of each. -/
theorem words_joinWords_eq_flatMap (parts : List (List Char)) :
    words (joinWords parts) = parts.flatMap words := by
  induction parts with
  | nil => rfl
  | cons part parts ih =>
      cases parts with
      | nil => rw [joinWords, List.intercalate_singleton, List.flatMap_singleton]
      | cons next others =>
          rw [joinWords, List.intercalate_cons_cons, List.append_assoc, List.singleton_append,
            words_append_cons (by decide), ← joinWords, ih]
          rfl

/-- Words that are joined are the words of what they are joined to. -/
theorem words_joinWords {parts : List (List Char)} (single : ∀ part ∈ parts, IsWord part) :
    words (joinWords parts) = parts := by
  rw [words_joinWords_eq_flatMap]
  induction parts with
  | nil => rfl
  | cons part parts ih =>
      rw [List.forall_mem_cons] at single
      rw [List.flatMap_cons, single.1.words_eq, ih single.2]
      rfl

end Cashbook.Text
