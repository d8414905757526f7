import Cashbook.Text.Blank
import Cashbook.Text.Case
import Cashbook.Text.Search
import Mathlib.Data.List.Basic
import Mathlib.Data.List.TakeWhile

/-!
# Trimming, cutting and lowering

What a text says does not depend on the blanks around it: trimming is settled by the text between
the blanks, and a cut at the first separator commutes with it.  A word of plain small letters is
the lowered form of exactly the texts that differ from it in the case of their Latin letters.
-/

namespace Cashbook.Text

variable {drop : Char → Bool} {text left right before after blanks : List Char} {separator : Char}

/-! ## Trimming -/

/-- Does a text neither start nor end with a blank? -/
def IsTight (text : List Char) : Prop :=
  (∀ c ∈ text.head?, isBlank c = false) ∧ ∀ c ∈ text.getLast?, isBlank c = false

instance (text : List Char) : Decidable (IsTight text) :=
  decidable_of_iff ((text.head?.all fun c => !isBlank c) && text.getLast?.all fun c => !isBlank c)
    (by simp [IsTight, Option.all_eq_true])

/-- Is a text nothing but blanks? -/
def AllBlank (text : List Char) : Prop :=
  ∀ c ∈ text, isBlank c = true

instance (text : List Char) : Decidable (AllBlank text) :=
  decidable_of_iff (text.all isBlank) List.all_eq_true

theorem allBlank_nil : AllBlank [] := by
  simp [AllBlank]

theorem allBlank_append_iff : AllBlank (left ++ right) ↔ AllBlank left ∧ AllBlank right := by
  simp only [AllBlank, List.mem_append, or_imp, forall_and]

theorem IsTight.reverse (tight : IsTight text) : IsTight text.reverse := by
  simpa [IsTight, and_comm] using tight

/-- A text without blanks has none at its ends. -/
theorem isTight_of_forall (visible : ∀ c ∈ text, isBlank c = false) : IsTight text :=
  ⟨fun c head => visible c (List.mem_of_mem_head? head),
    fun c last => visible c (List.mem_of_getLast? last)⟩

/-- The ends of a text are those of its first and its last part. -/
theorem IsTight.append_append {middle : List Char} (left_tight : IsTight left)
    (right_tight : IsTight right) (left_ne : left ≠ []) (right_ne : right ≠ []) :
    IsTight (left ++ middle ++ right) := by
  constructor
  · intro c head
    rw [List.append_assoc, List.head?_append_of_ne_nil _ left_ne] at head
    exact left_tight.1 c head
  · intro c last
    rw [List.getLast?_append_of_ne_nil _ right_ne] at last
    exact right_tight.2 c last

/-- A character that is not blank stands in no run of blanks. -/
theorem AllBlank.not_mem (blank : AllBlank text) (c : Char) (visible : isBlank c = false) :
    c ∉ text :=
  fun member => Bool.false_ne_true (visible.symm.trans (blank c member))

theorem dropWhile_append_of_allBlank (blank : AllBlank blanks) :
    (blanks ++ text).dropWhile isBlank = text.dropWhile isBlank := by
  rw [List.dropWhile_append_of_pos blank]

/-- Blanks before a text are trimmed away. -/
theorem trim_append_left (blank : AllBlank blanks) : trim (blanks ++ text) = trim text := by
  rw [trim, trimBy, dropWhile_append_of_allBlank blank]
  rfl

theorem dropWhile_of_head? (shown : ∀ c ∈ text.head?, drop c = false) :
    text.dropWhile drop = text := by
  cases text with
  | nil => rfl
  | cons c rest => simp [shown c rfl]

theorem dropWhile_of_isTight (tight : IsTight text) : text.dropWhile isBlank = text :=
  dropWhile_of_head? tight.1

/-- A text without blanks at its ends is left as it is. -/
theorem trim_of_isTight (tight : IsTight text) : trim text = text := by
  rw [trim, trimBy, dropWhile_of_isTight tight, dropWhile_of_isTight tight.reverse,
    List.reverse_reverse]

/-- A text whose ends stay is what trimming leaves of it between characters that go. -/
theorem trimBy_surrounded (gone_before : ∀ c ∈ before, drop c = true)
    (gone_after : ∀ c ∈ after, drop c = true) (first_stays : ∀ c ∈ text.head?, drop c = false)
    (last_stays : ∀ c ∈ text.getLast?, drop c = false) :
    trimBy drop (before ++ text ++ after) = text := by
  have reversed_stays : ∀ c ∈ text.reverse.head?, drop c = false := by
    simpa using last_stays
  have reversed_gone : ∀ c ∈ after.reverse, drop c = true := by
    simpa using gone_after
  rw [List.append_assoc, trimBy, List.dropWhile_append_of_pos gone_before]
  by_cases empty : text = []
  · subst empty
    rw [List.nil_append, List.dropWhile_eq_nil_iff.mpr gone_after]
    rfl
  · have head : (text ++ after).dropWhile drop = text ++ after := by
      apply dropWhile_of_head?
      rwa [List.head?_append_of_ne_nil _ empty]
    rw [head, List.reverse_append, List.dropWhile_append_of_pos reversed_gone,
      dropWhile_of_head? reversed_stays, List.reverse_reverse]

/-- A text between blanks is what trimming leaves. -/
theorem trim_surrounded (blank_before : AllBlank before) (blank_after : AllBlank after)
    (tight : IsTight text) : trim (before ++ text ++ after) = text :=
  trimBy_surrounded blank_before blank_after tight.1 tight.2

/-- A text is what trimming leaves of it, between characters that go. -/
theorem exists_eq_trimBy (drop : Char → Bool) (text : List Char) :
    ((∀ c ∈ (trimBy drop text).head?, drop c = false)
      ∧ ∀ c ∈ (trimBy drop text).getLast?, drop c = false)
    ∧ ∃ before after, (∀ c ∈ before, drop c = true) ∧ (∀ c ∈ after, drop c = true)
      ∧ text = before ++ trimBy drop text ++ after := by
  have stays : ∀ other : List Char, ∀ c ∈ (other.dropWhile drop).head?, drop c = false := by
    intro other c head
    have found := List.head?_dropWhile_not drop other
    rw [Option.mem_def.mp head] at found
    exact found
  have leading : ∀ other : List Char, ∀ c ∈ other.takeWhile drop, drop c = true :=
    fun other c member => List.mem_takeWhile_imp member
  set kept := text.dropWhile drop with kept_eq
  have kept_parts : kept = trimBy drop text ++ (kept.reverse.takeWhile drop).reverse := by
    rw [trimBy, ← kept_eq, ← List.reverse_append, List.takeWhile_append_dropWhile,
      List.reverse_reverse]
  refine ⟨⟨fun c head => ?_, fun c last => ?_⟩, text.takeWhile drop,
    (kept.reverse.takeWhile drop).reverse, leading text, ?_, ?_⟩
  · refine stays text c ?_
    rw [← kept_eq, kept_parts, List.head?_append, Option.mem_def.mp head]
    rfl
  · rw [trimBy, List.getLast?_reverse] at last
    exact stays _ c last
  · intro c member
    exact leading kept.reverse c (List.mem_reverse.mp member)
  · rw [List.append_assoc, ← kept_parts, kept_eq, List.takeWhile_append_dropWhile]

/-- A text is what trimming leaves of it, between blanks. -/
theorem exists_eq_trim (text : List Char) :
    IsTight (trim text) ∧ ∃ before after, AllBlank before ∧ AllBlank after
      ∧ text = before ++ trim text ++ after :=
  exists_eq_trimBy isBlank text

/-- Blanks after a text are trimmed away. -/
theorem trim_append_right (blank : AllBlank blanks) : trim (text ++ blanks) = trim text := by
  rcases exists_eq_trim text with ⟨tight, before, after, blank_before, blank_after, text_eq⟩
  calc trim (text ++ blanks)
      = trim (before ++ trim text ++ (after ++ blanks)) := by
        rw [← List.append_assoc, ← text_eq]
    _ = trim text :=
        trim_surrounded blank_before (allBlank_append_iff.mpr ⟨blank_after, blank⟩) tight

/-- Nothing is left exactly of blanks. -/
theorem trim_eq_nil_iff : trim text = [] ↔ AllBlank text := by
  constructor
  · intro empty
    rcases exists_eq_trim text with ⟨-, before, after, blank_before, blank_after, text_eq⟩
    rw [text_eq, empty, List.append_nil]
    exact allBlank_append_iff.mpr ⟨blank_before, blank_after⟩
  · intro blank
    have trimmed := @trim_append_left [] text blank
    rwa [List.append_nil] at trimmed

/-! ## Cutting -/

/-- A text is cut at the first separator. -/
theorem cut?_append (absent : separator ∉ left) :
    cut? separator (left ++ separator :: right) = some (left, right) := by
  induction left with
  | nil => simp [cut?]
  | cons c rest ih =>
      have different : c ≠ separator := fun same => absent (same ▸ List.mem_cons_self)
      have found := ih fun member => absent (List.mem_cons_of_mem c member)
      rw [List.cons_append, cut?, if_neg different, found]
      rfl

/-- What stands before a cut holds no separator. -/
theorem not_mem_of_cut? (cut : cut? separator text = some (left, right)) : separator ∉ left := by
  induction text generalizing left with
  | nil => cases cut
  | cons c rest ih =>
      rw [cut?] at cut
      split_ifs at cut with same
      · obtain ⟨rfl, -⟩ := Prod.mk.inj (Option.some.inj cut)
        exact List.not_mem_nil
      · obtain ⟨⟨front, back⟩, found, parts_eq⟩ := Option.map_eq_some_iff.mp cut
        obtain ⟨rfl, rfl⟩ := Prod.mk.inj parts_eq
        intro member
        rcases List.mem_cons.mp member with same_head | later
        · exact same same_head.symm
        · exact ih found later

/-- A text is cut into two parts exactly when a separator stands between them that does not stand
in the first. -/
theorem cut?_eq_some_iff :
    cut? separator text = some (left, right) ↔
      text = left ++ separator :: right ∧ separator ∉ left := by
  constructor
  · intro cut
    exact ⟨eq_append_of_cut? cut, not_mem_of_cut? cut⟩
  · rintro ⟨rfl, absent⟩
    exact cut?_append absent

/-- Only a text without the separator cannot be cut. -/
theorem cut?_eq_none_iff : cut? separator text = none ↔ separator ∉ text := by
  constructor
  · intro uncut member
    rcases List.eq_append_cons_of_mem member with ⟨left, right, rfl, absent⟩
    rw [cut?_append absent] at uncut
    cases uncut
  · intro absent
    cases cut : cut? separator text with
    | none => rfl
    | some parts =>
        refine absurd ?_ absent
        rw [eq_append_of_cut? cut]
        exact List.mem_append_right _ List.mem_cons_self

/-! ## Letter case -/

/-- Is it a small Latin letter, and the small form of Latin letters only?  The dotted capital I is
lowered to an i with a mark, and the sign of the kelvin to a k. -/
def IsPlain (c : Char) : Prop :=
  (0x61 ≤ c.toNat ∧ c.toNat < 0x7b) ∧ c ≠ 'i' ∧ c ≠ 'k'

instance (c : Char) : Decidable (IsPlain c) :=
  inferInstanceAs (Decidable (_ ∧ _))

/-- A run that moves some scalar value holds it. -/
theorem CaseRun.exists_mem_of_image? {runs : List CaseRun} {value image : Nat}
    (moved : image? runs value = some image) :
    ∃ run ∈ runs, value ≤ run.last ∧ run.first ≤ value
      ∧ image = run.target + (value - run.first) := by
  induction runs with
  | nil => cases moved
  | cons run rest ih =>
      rw [image?] at moved
      split_ifs at moved with inside stepped
      · exact ⟨run, List.mem_cons_self, inside, stepped.1, (Option.some.inj moved).symm⟩
      · rcases ih moved with ⟨other, member, found⟩
        exact ⟨other, List.mem_cons_of_mem run member, found⟩

/-- Outside the Latin letters, only the sign of the kelvin is lowered to one, which is a k. -/
theorem le_of_image?_lowerRuns {value image : Nat}
    (moved : CaseRun.image? lowerRuns value = some image) :
    0x80 ≤ image ∨ image = 'k'.toNat := by
  have runs : ∀ run ∈ lowerRuns,
      0x80 ≤ run.target ∨ run.first = run.last ∧ run.target = 'k'.toNat := by
    decide +kernel
  rcases CaseRun.exists_mem_of_image? moved with ⟨run, member, below, above, rfl⟩
  rcases runs run member with large | ⟨single, target⟩
  · exact .inl (Nat.le_add_right_of_le large)
  · refine .inr ?_
    rw [target, single, Nat.sub_eq_zero_of_le below, Nat.add_zero]

/-- The character of a number has this number, or there is none and it is the zero character. -/
theorem toNat_ofNat_cases (value : Nat) :
    (Char.ofNat value).toNat = value ∨ (Char.ofNat value).toNat = 0 := by
  by_cases valid : value.isValidChar
  · have char_eq : Char.ofNat value = Char.ofNatAux value valid := dif_pos valid
    exact .inl (congrArg Char.toNat char_eq)
  · have char_eq : Char.ofNat value = '\x00' := dif_neg valid
    exact .inr (congrArg Char.toNat char_eq)

/-- A character is lowered to plain letters only when it is a Latin letter. -/
theorem latin_of_lowerChar {c : Char} (plain : ∀ small ∈ lowerChar c, IsPlain small) :
    c.toNat < 0x80 := by
  by_contra foreign
  by_cases dotted : c = 'İ'
  · subst dotted
    have first := plain 'i' (by decide +kernel)
    exact first.2.1 rfl
  · have lowered : lowerChar c
        = [((CaseRun.image? lowerRuns c.toNat).map Char.ofNat).getD c] := by
      rw [lowerChar, if_neg foreign, if_neg dotted]
    rw [lowered] at plain
    have small := plain _ List.mem_cons_self
    cases moved : CaseRun.image? lowerRuns c.toNat with
    | none =>
        rw [moved] at small
        exact foreign (small.1.2.trans (by decide))
    | some image =>
        rw [moved, Option.map_some, Option.getD_some] at small
        rcases le_of_image?_lowerRuns moved with large | kelvin
        · have bounds := small.1
          rcases toNat_ofNat_cases image with valid | invalid <;> omega
        · rw [kelvin] at small
          exact small.2.2 rfl

theorem toLower_of_foreign {c : Char} (foreign : ¬ c.toNat < 0x80) : c.toLower = c := by
  unfold Char.toLower
  rw [dif_neg]
  rintro ⟨-, below⟩
  rw [UInt32.le_iff_toNat_le] at below
  change c.toNat ≤ 0x5a at below
  omega

/-- A text of Latin letters is lowered letter by letter. -/
theorem lowerAfter_of_latin (before : List Char) {text : List Char}
    (latin : ∀ c ∈ text, c.toNat < 0x80) : lowerAfter before text = text.map Char.toLower := by
  induction text generalizing before with
  | nil => rfl
  | cons c rest ih =>
      have head : c.toNat < 0x80 := latin c List.mem_cons_self
      have not_sigma : c ≠ 'Σ' := by
        rintro rfl
        exact absurd head (by decide)
      rw [lowerAfter, if_neg not_sigma, lowerChar, if_pos head,
        ih (c :: before) fun other member => latin other (List.mem_cons_of_mem c member)]
      rfl

/-- A text is lowered to plain letters only when it is Latin. -/
theorem latin_of_lowerAfter (before : List Char) {text : List Char}
    (plain : ∀ small ∈ lowerAfter before text, IsPlain small) : ∀ c ∈ text, c.toNat < 0x80 := by
  induction text generalizing before with
  | nil => simp
  | cons c rest ih =>
      rw [lowerAfter] at plain
      intro other member
      rcases List.mem_cons.mp member with rfl | later
      · by_cases sigma : other = 'Σ'
        · rw [if_pos sigma] at plain
          have final := plain _ (List.mem_append_left _ List.mem_cons_self)
          split_ifs at final
          · exact absurd final (by decide)
          · exact absurd final (by decide)
        · rw [if_neg sigma] at plain
          exact latin_of_lowerChar fun small first =>
            plain small (List.mem_append_left _ first)
      · exact ih (c :: before) (fun small tail => plain small (List.mem_append_right _ tail))
          other later

/-- Only Latin letters have plain letters as their small forms of ASCII. -/
theorem latin_of_isPlain_toLower {c : Char} (plain : IsPlain c.toLower) : c.toNat < 0x80 := by
  by_contra foreign
  rw [toLower_of_foreign foreign] at plain
  exact foreign (plain.1.2.trans (by decide))

/-- What holds of the first 128 characters by their numbers holds of each of them. -/
theorem of_latin (property : Char → Prop) (each : ∀ value < 0x80, property (Char.ofNat value))
    {c : Char} (latin : c.toNat < 0x80) : property c := by
  have checked := each c.toNat latin
  rwa [Char.ofNat_toNat] at checked

/-- What holds of the Latin letters holds of every character that has a plain small form. -/
theorem of_isPlain_toLower (property : Char → Prop)
    (letters : ∀ value < 0x80, IsPlain (Char.ofNat value).toLower → property (Char.ofNat value))
    {c : Char} (plain : IsPlain c.toLower) : property c :=
  of_latin (fun c => IsPlain c.toLower → property c) letters (latin_of_isPlain_toLower plain) plain

/-- A word of plain letters is the lowered form of the texts that write it in any letter case. -/
theorem lower_eq_iff {word : List Char} (plain : ∀ c ∈ word, IsPlain c) :
    lower text = word ↔ text.map Char.toLower = word := by
  constructor
  · intro lowered
    have latin : ∀ c ∈ text, c.toNat < 0x80 :=
      latin_of_lowerAfter [] (by rw [← lower, lowered]; exact plain)
    rw [← lowered, lower, lowerAfter_of_latin [] latin]
  · intro mapped
    have latin : ∀ c ∈ text, c.toNat < 0x80 := fun c member =>
      latin_of_isPlain_toLower (plain c.toLower (mapped ▸ List.mem_map_of_mem member))
    rw [lower, lowerAfter_of_latin [] latin, mapped]

end Cashbook.Text
