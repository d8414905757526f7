/-!
# Finding and cutting text

Substring search, the last place of a character, and cutting at a separator.
-/

namespace Cashbook.Text

/-- Does the needle stand somewhere in the text? -/
def occursIn (needle : List Char) : List Char → Bool
  | [] => needle.isEmpty
  | c :: rest => needle.isPrefixOf (c :: rest) || occursIn needle rest

/-- A needle occurs exactly in the texts it is an infix of. -/
theorem occursIn_iff {needle text : List Char} :
    occursIn needle text = true ↔ needle <:+: text := by
  induction text with
  | nil => simp [occursIn]
  | cons c rest ih => simp [occursIn, ih, List.infix_cons_iff]

/-- Is this character the later separator?  True when the last `first` or `second` of the text is
a `first`. -/
def lastIs (first second : Char) (text : List Char) : Bool :=
  (text.reverse.find? fun c => c == first || c == second) == some first

/-- The parts before and after the first separator, or nothing when there is none. -/
def cut? (separator : Char) : List Char → Option (List Char × List Char)
  | [] => none
  | c :: rest =>
      if c = separator then some ([], rest)
      else (cut? separator rest).map fun parts => (c :: parts.1, parts.2)

/-- A cut loses nothing but the separator. -/
theorem eq_append_of_cut? {separator : Char} {text left right : List Char}
    (h : cut? separator text = some (left, right)) : text = left ++ separator :: right := by
  induction text generalizing left with
  | nil => simp [cut?] at h
  | cons c rest ih =>
      by_cases hc : c = separator
      · simp [cut?, hc] at h
        obtain ⟨rfl, rfl⟩ := h
        simp [hc]
      · simp only [cut?, hc, if_false, Option.map_eq_some_iff] at h
        obtain ⟨⟨a, b⟩, hcut, heq⟩ := h
        obtain ⟨rfl, rfl⟩ := Prod.mk.inj heq
        simpa using ih hcut

end Cashbook.Text
