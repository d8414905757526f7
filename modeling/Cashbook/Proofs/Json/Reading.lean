import Cashbook.Json.Encoding
import Mathlib.Data.List.Basic

/-!
# What reading JSON leaves of a text

Whatever is read takes signs away from the front of a text: a sign of a text value, a number, a
word, a name with its colon, and so each value, item and member.
-/

namespace Cashbook.Json

variable {Value : Type} {input rest : List Sign} {steps : Nat}

/-! ## What is left of a text -/

theorem length_dropGap_le (input : List Sign) : (dropGap input).length ≤ input.length :=
  (List.dropWhile_sublist _).length_le

theorem length_spanChars (property : Char → Bool) (input : List Sign) :
    (spanChars property input).1.length + (spanChars property input).2.length = input.length := by
  induction input with
  | nil => rfl
  | cons sign rest ih =>
      cases sign with
      | half surrogate => simp [spanChars]
      | char c =>
          rw [spanChars]
          split_ifs
          · simp only [List.length_cons]
            omega
          · simp

theorem length_of_readUnit? {unit : Nat} (read : readUnit? input = some (unit, rest)) :
    rest.length < input.length := by
  unfold readUnit? at read
  split at read
  · simp only [bind, Option.bind_eq_some_iff] at read
    rcases read with ⟨_, -, _, -, _, -, _, -, made⟩
    cases made
    simp only [List.length_cons]
    omega
  · cases read

theorem length_of_readEscapedUnit? {sign : Sign}
    (read : readEscapedUnit? input = some (sign, rest)) : rest.length < input.length := by
  unfold readEscapedUnit? at read
  rcases Option.bind_eq_some_iff.mp read with ⟨⟨unit, behind⟩, first, second⟩
  have shorter := length_of_readUnit? first
  dsimp only at second
  split_ifs at second
  · split at second
    · rcases Option.bind_eq_some_iff.mp second with ⟨⟨low, last⟩, other, made⟩
      have further := length_of_readUnit? other
      dsimp only at made
      simp only [List.length_cons] at shorter
      split_ifs at made
      · cases made
        omega
      · cases made
        simpa using shorter
    · cases second
      exact shorter
  · cases second
    exact shorter

theorem length_of_readSignsWithin {bound : Nat} {signs : List Sign}
    (read : readSignsWithin bound input = some (signs, rest)) : rest.length < input.length := by
  induction bound generalizing input signs rest with
  | zero => cases read
  | succ bound ih =>
      have later : ∀ {behind : List Sign} {change : List Sign → List Sign},
          (readSignsWithin bound behind).bind (fun result => some (change result.1, result.2))
            = some (signs, rest) → rest.length < behind.length := by
        intro behind change read
        rcases Option.bind_eq_some_iff.mp read with ⟨result, inner, made⟩
        cases made
        exact ih inner
      unfold readSignsWithin at read
      split at read
      · cases read
      · cases read
        simp
      · rcases Option.bind_eq_some_iff.mp read with ⟨⟨sign, behind⟩, escaped, others⟩
        have shorter := length_of_readEscapedUnit? escaped
        have further := later others
        simp only [List.length_cons]
        omega
      · rcases Option.bind_eq_some_iff.mp read with ⟨c, -, others⟩
        have further := later others
        simp only [List.length_cons]
        omega
      · split_ifs at read
        have further := later read
        simp only [List.length_cons]
        omega
      · have further := later read
        simp only [List.length_cons]
        omega

theorem length_of_readText? {text : LooseText} (read : readText? input = some (text, rest)) :
    rest.length < input.length := by
  rcases Option.map_eq_some_iff.mp read with ⟨⟨signs, behind⟩, inner, made⟩
  cases made
  exact length_of_readSignsWithin inner

theorem length_takePlaces_le (input : List Sign) : (takePlaces input).2.length ≤ input.length := by
  unfold takePlaces
  split
  next rest =>
    have counted := length_spanChars Char.isDigit rest
    dsimp only
    split_ifs
    · exact Nat.le_refl _
    · simp only [List.length_cons]
      omega
  next => exact Nat.le_refl _

theorem length_takeSign_le (input : List Sign) : (takeSign input).2.length ≤ input.length := by
  unfold takeSign
  split <;> simp

theorem length_takeExponent_le (input : List Sign) :
    (takeExponent input).2.length ≤ input.length := by
  unfold takeExponent
  split
  next c rest =>
    have signed := length_takeSign_le rest
    have counted := length_spanChars Char.isDigit (takeSign rest).2
    split_ifs
    · dsimp only
      split_ifs
      · exact Nat.le_refl _
      · simp only [List.length_cons]
        omega
    · exact Nat.le_refl _
  next => exact Nat.le_refl _

theorem length_takeWhole (input : List Sign) :
    (takeWhole input).1.length + (takeWhole input).2.length = input.length := by
  unfold takeWhole
  split
  · simp only [List.length_cons, List.length_nil]
    omega
  · exact length_spanChars _ _

theorem length_of_readNumber? {sign : List Char} {value : Json}
    (read : readNumber? sign input = some (value, rest)) : rest.length < input.length := by
  have counted := length_takeWhole input
  have places := length_takePlaces_le (takeWhole input).2
  have exponent := length_takeExponent_le (takePlaces (takeWhole input).2).2
  have left : rest = (takeExponent (takePlaces (takeWhole input).2).2).2
      ∧ (takeWhole input).1 ≠ [] := by
    unfold readNumber? at read
    dsimp only at read
    split_ifs at read with none_whole plain
    · rcases Option.map_eq_some_iff.mp read with ⟨_, -, made⟩
      exact ⟨(Prod.mk.inj made).2.symm, none_whole⟩
    · rcases Option.map_eq_some_iff.mp read with ⟨_, -, made⟩
      exact ⟨(Prod.mk.inj made).2.symm, none_whole⟩
  have some_whole := List.length_pos_of_ne_nil left.2
  rw [left.1]
  omega

theorem length_of_readWord? {value : Json} (read : readWord? input = some (value, rest)) :
    rest.length < input.length := by
  unfold readWord? at read
  rcases List.exists_of_findSome?_eq_some read with ⟨entry, member, found⟩
  split_ifs at found with front
  cases found
  have shorter := (List.isPrefixOf_iff_prefix.mp front).length_le
  have some_letter : 0 < entry.1.length := by
    simp only [List.mem_cons, List.not_mem_nil, or_false] at member
    rcases member with rfl | rfl | rfl | rfl | rfl | rfl <;> decide
  simp only [LooseText.ofString, List.length_map, String.length_toList] at shorter
  rw [List.length_drop]
  omega

theorem length_of_readSimple? {value : Json} (read : readSimple? input = some (value, rest)) :
    rest.length < input.length := by
  have number_or_word : ∀ {sign : List Char} {digits : List Sign},
      digits.length ≤ input.length →
      (readNumber? sign digits).or (readWord? input) = some (value, rest) →
      rest.length < input.length := by
    intro sign digits fewer read
    rcases Option.or_eq_some_iff.mp read with number | ⟨-, word⟩
    · exact Nat.lt_of_lt_of_le (length_of_readNumber? number) fewer
    · exact length_of_readWord? word
  unfold readSimple? at read
  split at read
  · rcases Option.map_eq_some_iff.mp read with ⟨⟨text, behind⟩, inner, made⟩
    cases made
    exact Nat.lt_succ_of_lt (length_of_readText? inner)
  · exact number_or_word (Nat.le_succ _) read
  · exact number_or_word (Nat.le_refl _) read

theorem length_of_readName? {name : LooseText} (read : readName? input = some (name, rest)) :
    rest.length < input.length := by
  unfold readName? at read
  split at read
  next behind =>
    rcases Option.bind_eq_some_iff.mp read with ⟨⟨text, after⟩, inner, colon⟩
    have shorter := length_of_readText? inner
    have gap := length_dropGap_le after
    dsimp only at colon
    split at colon
    next tail same =>
      cases colon
      have further := length_dropGap_le tail
      rw [same] at gap
      simp only [List.length_cons] at gap ⊢
      omega
    next => cases colon
  next => cases read

/-! ## What is left behind a value -/

/-- Does a reader take signs away whenever it finds something? -/
def Takes (read : List Sign → Except ReadError (Value × List Sign)) : Prop :=
  ∀ ⦃input value rest⦄, read input = .ok (value, rest) → rest.length < input.length

theorem Takes.length_of_map {Other : Type} {read : List Sign → Except ReadError (Value × List Sign)}
    (takes : Takes read) {change : Value → Other} {value : Other}
    (found : (read input).map (fun result => (change result.1, result.2)) = .ok (value, rest)) :
    rest.length < input.length := by
  cases inner : read input with
  | error error =>
      rw [inner] at found
      cases found
  | ok result =>
      rw [inner] at found
      cases found
      exact takes inner

theorem takes_readValue (items : ∀ room, Takes (readItems steps room))
    (members : ∀ room found, Takes (readMembers steps room found)) (room : Nat) :
    Takes (readValue (steps + 1) room) := by
  intro input value rest read
  have closed : ∀ {sign : Sign} {behind last : List Sign},
      dropGap behind = sign :: last → last.length < behind.length + 1 := by
    intro sign behind last same
    have gap := length_dropGap_le behind
    rw [same] at gap
    exact Nat.lt_succ_of_lt gap
  have opened : ∀ {behind last : List Sign},
      last.length < (dropGap behind).length → last.length < behind.length + 1 :=
    fun shorter => Nat.lt_succ_of_lt (Nat.lt_of_lt_of_le shorter (length_dropGap_le _))
  unfold readValue at read
  split at read
  next behind =>
    cases room with
    | zero => cases read
    | succ room =>
        dsimp only at read
        split at read
        next last same =>
          cases read
          exact closed same
        next => exact opened ((items room).length_of_map read)
  next behind =>
    cases room with
    | zero => cases read
    | succ room =>
        dsimp only at read
        split at read
        next last same =>
          cases read
          exact closed same
        next => exact opened ((members room []).length_of_map read)
  next =>
    cases simple : readSimple? input with
    | none =>
        rw [simple] at read
        cases read
    | some result =>
        rw [simple] at read
        cases read
        exact length_of_readSimple? simple

theorem takes_readItems (values : ∀ room, Takes (readValue steps room))
    (items : ∀ room, Takes (readItems steps room)) (room : Nat) :
    Takes (readItems (steps + 1) room) := by
  intro input found rest read
  unfold readItems at read
  split at read
  · cases read
  next item behind first =>
    have shorter := values room first
    have gap := length_dropGap_le behind
    split at read
    next last same =>
      have further := (items room).length_of_map read
      have last_gap := length_dropGap_le last
      rw [same] at gap
      simp only [List.length_cons] at gap
      omega
    next last same =>
      cases read
      rw [same] at gap
      simp only [List.length_cons] at gap
      omega
    next => cases read

theorem takes_readMembers (values : ∀ room, Takes (readValue steps room))
    (members : ∀ room found, Takes (readMembers steps room found)) (room : Nat)
    (found : Named Json LooseText) : Takes (readMembers (steps + 1) room found) := by
  intro input all rest read
  unfold readMembers at read
  split at read
  · cases read
  next name colon named =>
    have behind_name := length_of_readName? named
    split at read
    · cases read
    next value behind first =>
      have shorter := values room first
      have gap := length_dropGap_le behind
      split at read
      next last same =>
        have further := members room _ read
        have last_gap := length_dropGap_le last
        rw [same] at gap
        simp only [List.length_cons] at gap
        omega
      next last same =>
        cases read
        rw [same] at gap
        simp only [List.length_cons] at gap
        omega
      next => cases read

theorem takes (steps : Nat) :
    (∀ room, Takes (readValue steps room)) ∧ (∀ room, Takes (readItems steps room))
      ∧ ∀ room found, Takes (readMembers steps room found) := by
  -- The readers call each other with one step less, so that one induction is for all three.
  induction steps with
  | zero =>
      refine ⟨fun room => ?_, fun room => ?_, fun room found => ?_⟩
      all_goals
        rintro input value rest ⟨⟩
  | succ steps ih =>
      rcases ih with ⟨values, items, members⟩
      exact ⟨takes_readValue items members, takes_readItems values items,
        takes_readMembers values members⟩

end Cashbook.Json
