import Cashbook.Proofs.Json.Reading

/-!
# Steps and room of the reader of JSON

Every sign of a text pays for two steps, so that a text never runs out of the steps that the reader
gives it, and more steps make no difference.  More room makes none either to a text that has enough
of it.  A text always has enough if it has room for as many containers as it has signs, but however
much room there is, some other text has too little.
-/

namespace Cashbook.Json

variable {Value : Type} {input : List Sign} {steps others room more : Nat}

/-! ## More room -/

/-- Is what a reader with less room finds also found with more, unless the text nests too deep? -/
def ReadsOn (room more : Nat) (first second : Except ReadError Value) : Prop :=
  second = first ∨ room < more ∧ ∃ container, first = .error (.tooDeep container)

theorem ReadsOn.refl (room more : Nat) (result : Except ReadError Value) :
    ReadsOn room more result result :=
  .inl rfl

theorem ReadsOn.map {Other : Type} {first second : Except ReadError Value}
    (further : ReadsOn room more first second) (change : Value → Other) :
    ReadsOn room more (first.map change) (second.map change) := by
  rcases further with rfl | ⟨less, container, rfl⟩
  · exact .refl _ _ _
  · exact .inr ⟨less, container, rfl⟩

theorem ReadsOn.of_succ {first second : Except ReadError Value}
    (further : ReadsOn room more first second) : ReadsOn (room + 1) (more + 1) first second :=
  further.imp_right fun deep => ⟨Nat.succ_lt_succ deep.1, deep.2⟩

theorem ReadsOn.eq_of_same_room {first second : Except ReadError Value}
    (further : ReadsOn room room first second) : second = first :=
  further.resolve_right fun deep => Nat.lt_irrefl _ deep.1

/-! ## More steps -/

/-- Do the readers of a text get as far with any steps that are enough, and further only with more
room? -/
structure IsSettled (input : List Sign) : Prop where
  value : ∀ ⦃steps others room more⦄, 2 * input.length + 1 ≤ steps →
    2 * input.length + 1 ≤ others → room ≤ more →
    ReadsOn room more (readValue steps room input) (readValue others more input)
  items : ∀ ⦃steps others room more⦄, 2 * input.length + 2 ≤ steps →
    2 * input.length + 2 ≤ others → room ≤ more →
    ReadsOn room more (readItems steps room input) (readItems others more input)
  members : ∀ ⦃steps others room more⦄ found, 2 * input.length + 2 ≤ steps →
    2 * input.length + 2 ≤ others → room ≤ more →
    ReadsOn room more (readMembers steps room found input) (readMembers others more found input)

/-- Are all the texts settled that are shorter than this one? -/
def ShorterSettled (input : List Sign) : Prop :=
  ∀ ⦃inner : List Sign⦄, inner.length < input.length → IsSettled inner

theorem readValue_readsOn (shorter : ShorterSettled input)
    (enough : 2 * input.length + 1 ≤ steps) (enough_too : 2 * input.length + 1 ≤ others)
    (more_room : room ≤ more) :
    ReadsOn room more (readValue steps room input) (readValue others more input) := by
  obtain ⟨steps, rfl⟩ := Nat.exists_eq_add_of_le' (Nat.le_of_add_left_le enough)
  obtain ⟨others, rfl⟩ := Nat.exists_eq_add_of_le' (Nat.le_of_add_left_le enough_too)
  -- What stands in a container is shorter by the bracket, which pays for both steps.
  unfold readValue
  split
  next rest =>
    simp only [List.length_cons] at enough enough_too
    have fewer := length_dropGap_le rest
    cases room with
    | zero =>
        cases more with
        | zero => exact .refl _ _ _
        | succ more => exact .inr ⟨Nat.succ_pos _, .array, rfl⟩
    | succ room =>
        cases more with
        | zero => omega
        | succ more =>
            dsimp only
            split
            · exact .refl _ _ _
            · refine (ReadsOn.map ?_ _).of_succ
              exact (shorter (Nat.lt_succ_of_le fewer)).items (by omega) (by omega) (by omega)
  next rest =>
    simp only [List.length_cons] at enough enough_too
    have fewer := length_dropGap_le rest
    cases room with
    | zero =>
        cases more with
        | zero => exact .refl _ _ _
        | succ more => exact .inr ⟨Nat.succ_pos _, .object, rfl⟩
    | succ room =>
        cases more with
        | zero => omega
        | succ more =>
            dsimp only
            split
            · exact .refl _ _ _
            · refine (ReadsOn.map ?_ _).of_succ
              exact (shorter (Nat.lt_succ_of_le fewer)).members _ (by omega) (by omega) (by omega)
  next => exact .refl _ _ _

theorem readItems_readsOn (shorter : ShorterSettled input)
    (values : ∀ {steps others}, 2 * input.length + 1 ≤ steps → 2 * input.length + 1 ≤ others →
      ReadsOn room more (readValue steps room input) (readValue others more input))
    (enough : 2 * input.length + 2 ≤ steps) (enough_too : 2 * input.length + 2 ≤ others)
    (more_room : room ≤ more) :
    ReadsOn room more (readItems steps room input) (readItems others more input) := by
  obtain ⟨steps, rfl⟩ := Nat.exists_eq_add_of_le' (show 1 ≤ steps by omega)
  obtain ⟨others, rfl⟩ := Nat.exists_eq_add_of_le' (show 1 ≤ others by omega)
  rcases @values steps others (by omega) (by omega) with same | ⟨less, container, deep⟩
  · unfold readItems
    rw [same]
    split
    · exact .refl _ _ _
    next item rest first =>
      have taken := (takes _).1 room first
      have gap := length_dropGap_le rest
      split
      next behind comma =>
        have last_gap := length_dropGap_le behind
        rw [comma, List.length_cons] at gap
        exact ((shorter (by omega)).items (by omega) (by omega) more_room).map _
      · exact .refl _ _ _
      · exact .refl _ _ _
  · refine .inr ⟨less, container, ?_⟩
    rw [readItems, deep]

theorem readMembers_readsOn (shorter : ShorterSettled input) (found : Named Json LooseText)
    (enough : 2 * input.length + 2 ≤ steps) (enough_too : 2 * input.length + 2 ≤ others)
    (more_room : room ≤ more) :
    ReadsOn room more (readMembers steps room found input)
      (readMembers others more found input) := by
  obtain ⟨steps, rfl⟩ := Nat.exists_eq_add_of_le' (show 1 ≤ steps by omega)
  obtain ⟨others, rfl⟩ := Nat.exists_eq_add_of_le' (show 1 ≤ others by omega)
  cases named : readName? input with
  | none =>
      simp only [readMembers, named]
      exact .refl _ _ _
  | some result =>
      rcases result with ⟨name, colon⟩
      have behind_name := length_of_readName? named
      have values := @(shorter behind_name).value steps others _ _ (by omega) (by omega) more_room
      simp only [readMembers, named]
      rcases values with same | ⟨less, container, deep⟩
      · rw [same]
        split
        · exact .refl _ _ _
        next value rest first =>
          have taken := (takes _).1 room first
          have gap := length_dropGap_le rest
          split
          next behind comma =>
            have last_gap := length_dropGap_le behind
            rw [comma, List.length_cons] at gap
            exact (shorter (by omega)).members _ (by omega) (by omega) more_room
          · exact .refl _ _ _
          · exact .refl _ _ _
      · rw [deep]
        exact .inr ⟨less, container, rfl⟩

theorem isSettled (input : List Sign) : IsSettled input := by
  -- What follows a comma is shorter by the item in front of it, so the induction is strong.
  induction length : input.length using Nat.strongRecOn generalizing input with
  | ind bound ih =>
      have shorter : ShorterSettled input := fun inner less =>
        ih inner.length (length ▸ less) inner rfl
      refine ⟨fun _ _ _ _ => readValue_readsOn shorter, ?_,
        fun _ _ _ _ found => readMembers_readsOn shorter found⟩
      intro steps others room more enough enough_too more_room
      exact readItems_readsOn shorter
        (fun enough enough_too => readValue_readsOn shorter enough enough_too more_room)
        enough enough_too more_room

/-- Every step beyond those that the reader gives is one too many. -/
theorem readValue_of_more_steps (enough : 2 * input.length + 1 ≤ steps) :
    readValue steps room input = readValue (2 * input.length + 1) room input :=
  ((isSettled input).value (Nat.le_refl _) enough (Nat.le_refl room)).eq_of_same_room

/-- More room helps a text that nests too deep, and changes nothing else. -/
theorem readWithin_of_more_room (more_room : room ≤ more) :
    readWithin more input = readWithin room input
      ∨ ∃ container, readWithin room input = .error (.tooDeep container) := by
  have fewer := length_dropGap_le input
  have enough : 2 * (dropGap input).length + 1 ≤ 2 * input.length + 1 := by omega
  rcases (isSettled (dropGap input)).value enough enough more_room
    with same | ⟨-, container, deep⟩
  · left
    rw [readWithin, readWithin, same]
  · right
    exact ⟨container, by rw [readWithin, deep]⟩

theorem readBytes_of_more_room (more_room : room ≤ more) (bytes : List UInt8) :
    readBytes more bytes = readBytes room bytes
      ∨ ∃ container, readBytes room bytes = .error (.tooDeep container) := by
  unfold readBytes
  dsimp only
  split
  · exact readWithin_of_more_room more_room
  · exact .inl rfl

/-! ## Enough room -/

/-- Does a reader find only such texts too deep that have more signs than it has room? -/
def FitsLength (read : Nat → List Sign → Except ReadError Value) : Prop :=
  ∀ ⦃room input container⦄, read room input = .error (.tooDeep container) → room < input.length

theorem FitsLength.lt_of_map {Other : Type}
    {read : Nat → List Sign → Except ReadError Value} (fits : FitsLength read)
    {change : Value → Other} {container : Container}
    (deep : (read room input).map change = .error (.tooDeep container)) : room < input.length := by
  cases found : read room input with
  | error error =>
      rw [found] at deep
      cases deep
      exact fits found
  | ok value =>
      rw [found] at deep
      cases deep

theorem fitsLength_readValue (items : FitsLength (readItems steps))
    (members : ∀ found, FitsLength fun room => readMembers steps room found) :
    FitsLength (readValue (steps + 1)) := by
  intro room input container deep
  unfold readValue at deep
  split at deep
  next rest =>
    cases room with
    | zero => exact Nat.succ_pos _
    | succ room =>
        dsimp only at deep
        split at deep
        · cases deep
        · exact Nat.succ_lt_succ
            (Nat.lt_of_lt_of_le (items.lt_of_map deep) (length_dropGap_le rest))
  next rest =>
    cases room with
    | zero => exact Nat.succ_pos _
    | succ room =>
        dsimp only at deep
        split at deep
        · cases deep
        · exact Nat.succ_lt_succ
            (Nat.lt_of_lt_of_le ((members []).lt_of_map deep) (length_dropGap_le rest))
  next =>
    cases simple : readSimple? input with
    | none =>
        rw [simple] at deep
        cases deep
    | some result =>
        rw [simple] at deep
        cases deep

theorem fitsLength_readItems (values : FitsLength (readValue steps))
    (items : FitsLength (readItems steps)) : FitsLength (readItems (steps + 1)) := by
  intro room input container deep
  unfold readItems at deep
  split at deep
  next error first =>
    cases deep
    exact values first
  next item rest first =>
    have taken := (takes _).1 room first
    have gap := length_dropGap_le rest
    split at deep
    next behind comma =>
      have fewer := items.lt_of_map deep
      have last_gap := length_dropGap_le behind
      rw [comma, List.length_cons] at gap
      omega
    · cases deep
    · cases deep

theorem fitsLength_readMembers (values : FitsLength (readValue steps))
    (members : ∀ found, FitsLength fun room => readMembers steps room found)
    (found : Named Json LooseText) : FitsLength fun room => readMembers (steps + 1) room found := by
  intro room input container deep
  dsimp only at deep
  unfold readMembers at deep
  split at deep
  · cases deep
  next name colon named =>
    have behind_name := length_of_readName? named
    split at deep
    next error first =>
      cases deep
      exact Nat.lt_trans (values first) behind_name
    next value rest first =>
      have taken := (takes _).1 room first
      have gap := length_dropGap_le rest
      split at deep
      next behind comma =>
        have fewer := members _ deep
        have last_gap := length_dropGap_le behind
        rw [comma, List.length_cons] at gap
        omega
      · cases deep
      · cases deep

theorem fitsLength (steps : Nat) :
    FitsLength (readValue steps) ∧ FitsLength (readItems steps)
      ∧ ∀ found, FitsLength fun room => readMembers steps room found := by
  induction steps with
  | zero =>
      refine ⟨?_, ?_, fun found => ?_⟩
      all_goals
        rintro room input container ⟨⟩
  | succ steps ih =>
      rcases ih with ⟨values, items, members⟩
      exact ⟨fitsLength_readValue items members, fitsLength_readItems values items,
        fitsLength_readMembers values members⟩

/-- Only a text with more signs than there is room nests too deep. -/
theorem lt_length_of_readWithin {container : Container}
    (deep : readWithin room input = .error (.tooDeep container)) : room < input.length := by
  unfold readWithin at deep
  split at deep
  next value rest found =>
    split_ifs at deep
    cases deep
  next error found =>
    cases deep
    exact Nat.lt_of_lt_of_le ((fitsLength _).1 found) (length_dropGap_le input)

/-- What is read of a text with no limit is what any room for all its signs gives. -/
theorem read?_eq_readWithin {text : List Char} (enough : text.length ≤ room) :
    read? text = (readWithin room (text.map Sign.char)).toOption := by
  rcases @readWithin_of_more_room (text.map Sign.char) _ _ enough with same | ⟨container, deep⟩
  · rw [same, read?]
  · have fewer := lt_length_of_readWithin deep
    rw [List.length_map] at fewer
    exact absurd fewer (Nat.lt_irrefl _)

/-! ## Too little room -/

/-- Lists that open inside each other, more than there is room for, are not read to an end. -/
theorem readValue_of_nested {depth : Nat} (deep : room < depth)
    (enough : 2 * room + 1 ≤ steps) :
    readValue steps room (List.replicate depth (.char '[')) = .error (.tooDeep .array) := by
  induction room generalizing steps depth with
  | zero =>
      obtain ⟨steps, rfl⟩ := Nat.exists_eq_add_of_le' enough
      obtain ⟨depth, rfl⟩ := Nat.exists_eq_add_of_le' deep
      rw [List.replicate_succ, readValue]
  | succ room ih =>
      -- The bracket takes one step, and the first item inside it another one.
      obtain ⟨steps, rfl⟩ := Nat.exists_eq_add_of_le' (show 2 ≤ steps by omega)
      obtain ⟨depth, rfl⟩ := Nat.exists_eq_add_of_le' (show 2 ≤ depth by omega)
      have inner := @ih steps (depth + 1) (by omega) (by omega)
      have items : readItems (steps + 1) room (List.replicate (depth + 1) (.char '['))
          = .error (.tooDeep .array) := by
        rw [readItems, inner]
      rw [List.replicate_succ] at items
      rw [List.replicate_succ, List.replicate_succ, readValue]
      change ((readItems (steps + 1) room (.char '[' :: List.replicate depth (.char '['))).map
        fun result => (array result.1, result.2)) = _
      rw [items]
      rfl

theorem signs8?_replicate (depth : Nat) :
    signs8? (List.replicate depth '['.toUInt8) = some (List.replicate depth (.char '[')) := by
  induction depth with
  | zero => rfl
  | succ depth ih =>
      rw [List.replicate_succ, signs8?.eq_def]
      dsimp only
      rw [if_pos (by decide), ih]
      rfl

/-- However much room there is, some bytes nest deeper. -/
theorem readBytes_of_nested {depth : Nat} (deep : room < depth) :
    readBytes room (List.replicate depth '['.toUInt8) = .error (.tooDeep .array) := by
  have detected : Encoding.detect (List.replicate depth '['.toUInt8)
      = (.utf8, List.replicate depth '['.toUInt8) := by
    rcases depth with _ | _ | _ | _ | depth <;> rfl
  have gapless : dropGap (List.replicate depth (.char '[')) = List.replicate depth (.char '[') := by
    cases depth <;> rfl
  rw [readBytes, detected]
  simp only [Encoding.decode?, signs8?_replicate, readWithin, gapless]
  rw [readValue_of_nested deep (by rw [List.length_replicate]; omega)]

end Cashbook.Json
