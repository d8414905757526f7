import Cashbook.Proofs.Text
import Cashbook.Service.ApiTokens
import Cashbook.Service.Bearer
import Mathlib.Data.List.Nodup

/-!
# Configured tokens

A token that is configured for an owner authenticates this owner, however the pairs are spaced in
the configuration and the header is spaced and capitalised.  The last pair of a token decides, and
a token without a pair authenticates nobody.  What cannot be read is said of every text: a segment
between commas that is more than blanks and has a blank side, or only one.
-/

namespace Cashbook

open Text

/-! ## Named values -/

namespace Named

variable {Value : Type}

/-- Puts pairs one after the other. -/
def putAll (values : Named Value) (pairs : List (String × Value)) : Named Value :=
  pairs.foldl (fun values pair => values.put pair.1 pair.2) values

/-- Of several pairs with one name the last decides. -/
theorem get?_putAll (values : Named Value) (pairs : List (String × Value)) (name : String) :
    (values.putAll pairs).get? name = (pairs.reverse.lookup name).or (values.get? name) := by
  induction pairs generalizing values with
  | nil => rfl
  | cons pair rest ih =>
      have rest_put := ih (values.put pair.1 pair.2)
      rw [putAll, List.foldl_cons, ← putAll, rest_put, get?_put, List.reverse_cons,
        List.lookup_append, Option.or_assoc]
      congr 1
      by_cases same : pair.1 = name
      · rw [if_pos same.symm, List.lookup_cons, beq_iff_eq.mpr same.symm]
        rfl
      · have other : name ≠ pair.1 := fun equal => same equal.symm
        rw [if_neg other, List.lookup_cons, beq_false_of_ne other]
        rfl

theorem mem_names_put {values : Named Value} {name other : String} {value : Value} :
    other ∈ (values.put name value).map Prod.fst ↔ other = name ∨ other ∈ values.map Prod.fst := by
  induction values with
  | nil => simp [put]
  | cons entry rest ih =>
      rw [put]
      split_ifs with same
      · simp [same]
      · rw [List.map_cons, List.mem_cons, ih, List.map_cons, List.mem_cons]
        exact or_left_comm

/-- No name comes twice. -/
theorem nodup_names_put {values : Named Value} (name : String) (value : Value)
    (distinct : (values.map Prod.fst).Nodup) : ((values.put name value).map Prod.fst).Nodup := by
  induction values with
  | nil => simp [put]
  | cons entry rest ih =>
      rw [List.map_cons, List.nodup_cons] at distinct
      rw [put]
      split_ifs with same
      · rw [List.map_cons, List.nodup_cons, ← same]
        exact distinct
      · rw [List.map_cons, List.nodup_cons, mem_names_put]
        refine ⟨?_, ih distinct.2⟩
        rintro (equal | member)
        · exact same equal
        · exact distinct.1 member

theorem nodup_names_putAll {values : Named Value} (pairs : List (String × Value))
    (distinct : (values.map Prod.fst).Nodup) : ((values.putAll pairs).map Prod.fst).Nodup := by
  induction pairs generalizing values with
  | nil => exact distinct
  | cons pair rest ih => exact ih (nodup_names_put pair.1 pair.2 distinct)

end Named

/-! ## Headers -/

namespace Bearer

variable {header token : String}

/-- Is a header the scheme, in any letter case, a space and this token, between blanks and with
blanks between the scheme and the token? -/
def Carries (header token : String) : Prop :=
  ∃ before name between after : List Char,
    AllBlank before ∧ AllBlank between ∧ AllBlank after ∧ name.map Char.toLower = scheme
      ∧ header.toList = before ++ name ++ ' ' :: (between ++ token.toList ++ after)

/-- The letters of the scheme are plain. -/
theorem isPlain_of_mem_scheme : ∀ c ∈ scheme, IsPlain c := by
  have checked : (scheme.all fun c => IsPlain c) = true := by decide
  simpa using checked

/-- The name of the scheme is the text of Latin letters that write it in small letters. -/
theorem lower_eq_scheme_iff {name : List Char} :
    lower name = scheme ↔ name.map Char.toLower = scheme :=
  lower_eq_iff isPlain_of_mem_scheme

/-- No blank stands in the name of the scheme. -/
theorem visible_of_name {name : List Char} (named : name.map Char.toLower = scheme) :
    ∀ c ∈ name, isBlank c = false := by
  intro c member
  have small : c.toLower ∈ scheme := named ▸ List.mem_map_of_mem member
  exact of_isPlain_toLower (fun c => isBlank c = false) (by decide +kernel)
    (isPlain_of_mem_scheme c.toLower small)

/-- A token that is found in a header is carried by it. -/
theorem carries_of_token? (found : token? (some header) = some token) :
    Carries header token ∧ token ≠ "" ∧ IsTight token.toList := by
  unfold token? at found
  simp only [bind, Option.bind_eq_some_iff, Option.some.injEq] at found
  obtain ⟨_, rfl, ⟨name, rest⟩, cut, admitted⟩ := found
  dsimp only at admitted
  split_ifs at admitted with given
  obtain rfl := Option.some.inj admitted
  rcases exists_eq_trim header.toList with
    ⟨-, before, after, blank_before, blank_after, header_eq⟩
  rcases exists_eq_trim rest with
    ⟨tight, between, behind, blank_between, blank_behind, rest_eq⟩
  refine ⟨⟨before, name, between, behind ++ after, blank_before, blank_between,
    allBlank_append_iff.mpr ⟨blank_behind, blank_after⟩, lower_eq_scheme_iff.mp given.1, ?_⟩,
    ?_, ?_⟩
  · rw [String.toList_ofList]
    calc header.toList
        = before ++ (name ++ ' ' :: rest) ++ after := by
          rw [← (cut?_eq_some_iff.mp cut).1]
          exact header_eq
      _ = before ++ (name ++ ' ' :: (between ++ trim rest ++ behind)) ++ after := by
          rw [← rest_eq]
      _ = before ++ name ++ ' ' :: (between ++ trim rest ++ (behind ++ after)) := by
          simp only [List.append_assoc, List.cons_append]
  · intro empty
    exact given.2 (by simpa using congrArg String.toList empty)
  · rwa [String.toList_ofList]

/-- A token that a header carries is found in it. -/
theorem token?_of_carries (carries : Carries header token) (not_empty : token ≠ "")
    (tight : IsTight token.toList) : token? (some header) = some token := by
  obtain ⟨before, name, between, after, blank_before, blank_between, blank_after, named,
    header_eq⟩ := carries
  have token_ne : token.toList ≠ [] := by simpa using not_empty
  have visible := visible_of_name named
  have name_ne : name ≠ [] := by
    rintro rfl
    cases named
  have shown : IsTight (name ++ ' ' :: (between ++ token.toList)) := by
    have ends : IsTight (name ++ (' ' :: between) ++ token.toList) :=
      (isTight_of_forall visible).append_append tight name_ne token_ne
    rwa [List.append_assoc] at ends
  have trimmed : trim header.toList = name ++ ' ' :: (between ++ token.toList) := by
    rw [← trim_surrounded blank_before blank_after shown, header_eq]
    simp only [List.append_assoc, List.cons_append]
  have cut : cut? ' ' (trim header.toList) = some (name, between ++ token.toList) := by
    rw [trimmed]
    exact cut?_append fun member => absurd (visible ' ' member) (by decide)
  have rest_trimmed : trim (between ++ token.toList) = token.toList := by
    rw [trim_append_left blank_between, trim_of_isTight tight]
  simp only [token?, bind, Option.bind_some, cut, rest_trimmed, String.ofList_toList]
  exact if_pos ⟨lower_eq_scheme_iff.mpr named, token_ne⟩

/-- A header gives the token that it carries, which is not empty and has no blanks at its ends. -/
theorem token?_eq_some_iff :
    token? (some header) = some token ↔
      Carries header token ∧ token ≠ "" ∧ IsTight token.toList :=
  ⟨carries_of_token?, fun ⟨carries, not_empty, tight⟩ => token?_of_carries carries not_empty tight⟩

end Bearer

/-! ## Configurations -/

namespace ApiTokens

/-- Is a text without a sign of equality, or are there only blanks before or after the first? -/
def IsUnreadable (segment : List Char) : Prop :=
  '=' ∉ segment
    ∨ ∃ left right, segment = left ++ '=' :: right ∧ '=' ∉ left ∧ (AllBlank left ∨ AllBlank right)

/-- A pair is read from the two sides of the first sign of equality. -/
theorem readPair?_append {left right : List Char} (absent : '=' ∉ left) :
    readPair? (left ++ '=' :: right)
      = if AllBlank left ∨ AllBlank right then none
        else some (String.ofList (trim left), String.ofList (trim right)) := by
  simp only [readPair?, bind, Option.bind_some, cut?_append absent, trim_eq_nil_iff]

/-- A text without a sign of equality writes no pair. -/
theorem readPair?_of_not_mem {segment : List Char} (absent : '=' ∉ segment) :
    readPair? segment = none := by
  rw [readPair?, cut?_eq_none_iff.mpr absent]
  rfl

theorem readPair?_eq_none_iff {segment : List Char} :
    readPair? segment = none ↔ IsUnreadable segment := by
  by_cases member : '=' ∈ segment
  · rcases List.eq_append_cons_of_mem member with ⟨left, right, rfl, absent⟩
    rw [readPair?_append absent]
    constructor
    · intro unread
      split_ifs at unread with blank
      exact .inr ⟨left, right, rfl, absent, blank⟩
    · rintro (missing | ⟨other, rest, parts_eq, other_absent, blank⟩)
      · exact absurd member missing
      · have cut : cut? '=' (other ++ '=' :: rest) = some (other, rest) :=
          cut?_append other_absent
        rw [← parts_eq, cut?_append absent] at cut
        obtain ⟨rfl, rfl⟩ := Prod.mk.inj (Option.some.inj cut)
        exact if_pos blank
  · exact ⟨fun _ => .inl member, fun _ => readPair?_of_not_mem member⟩

/-- The blanks around a pair do not count. -/
theorem readPair?_trim (segment : List Char) : readPair? (trim segment) = readPair? segment := by
  rcases exists_eq_trim segment with ⟨-, before, after, blank_before, blank_after, segment_eq⟩
  have sign_before := blank_before.not_mem '=' (by decide)
  have sign_after := blank_after.not_mem '=' (by decide)
  by_cases member : '=' ∈ trim segment
  · rcases List.eq_append_cons_of_mem member with ⟨left, right, trim_eq, absent⟩
    have parts : segment = (before ++ left) ++ '=' :: (right ++ after) := by
      rw [segment_eq, trim_eq]
      simp only [List.append_assoc, List.cons_append]
    have absent_left : '=' ∉ before ++ left := fun inside =>
      (List.mem_append.mp inside).elim sign_before absent
    rw [trim_eq, readPair?_append absent, parts, readPair?_append absent_left,
      trim_append_left blank_before, trim_append_right blank_after]
    simp only [allBlank_append_iff, blank_before, blank_after, true_and, and_true]
  · have absent : '=' ∉ segment := by
      rw [segment_eq]
      simp only [List.mem_append, sign_before, member, sign_after, or_self, not_false_eq_true]
    rw [readPair?_of_not_mem member, readPair?_of_not_mem absent]

theorem readPairs_cons (tokens : ApiTokens) (segment : List Char) (rest : List (List Char)) :
    readPairs tokens (segment :: rest) =
      if AllBlank segment then readPairs tokens rest
      else
        match readPair? segment with
        | some (token, owner) => readPairs (Named.put tokens token owner) rest
        | none => .error (String.ofList (trim segment)) := by
  simp only [readPairs, readPair?_trim]
  by_cases blank : AllBlank segment
  · rw [if_pos blank]
    exact if_pos (trim_eq_nil_iff.mpr blank)
  · rw [if_neg blank]
    exact if_neg (mt trim_eq_nil_iff.mp blank)

/-- When every segment is blank or writes a pair, all the pairs are put into the table. -/
theorem readPairs_of_readable {segments : List (List Char)} (tokens : ApiTokens)
    (readable : ∀ segment ∈ segments, AllBlank segment ∨ ¬ IsUnreadable segment) :
    readPairs tokens segments = .ok (Named.putAll tokens (segments.filterMap readPair?)) := by
  induction segments generalizing tokens with
  | nil => rfl
  | cons segment rest ih =>
      have rest_read := fun tokens => ih tokens fun other member =>
        readable other (List.mem_cons_of_mem segment member)
      rw [readPairs_cons]
      by_cases blank : AllBlank segment
      · have unread := readPair?_of_not_mem (blank.not_mem '=' (by decide))
        rw [if_pos blank, rest_read, List.filterMap_cons_none unread]
      · have written := (readable segment List.mem_cons_self).resolve_left blank
        rw [← readPair?_eq_none_iff] at written
        obtain ⟨pair, read⟩ := Option.ne_none_iff_exists'.mp written
        rw [if_neg blank, read, List.filterMap_cons_some read]
        exact rest_read _

/-- A segment that is more than blanks and writes no pair is an error. -/
theorem exists_readPairs_eq_error {segments : List (List Char)} {segment : List Char}
    (tokens : ApiTokens) (member : segment ∈ segments) (shown : ¬ AllBlank segment)
    (unreadable : IsUnreadable segment) : ∃ pair, readPairs tokens segments = .error pair := by
  induction segments generalizing tokens with
  | nil => cases member
  | cons head rest ih =>
      rw [readPairs_cons]
      rcases List.mem_cons.mp member with rfl | later
      · rw [if_neg shown, readPair?_eq_none_iff.mpr unreadable]
        exact ⟨_, rfl⟩
      · split_ifs
        · exact ih tokens later
        · split
          · exact ih _ later
          · exact ⟨_, rfl⟩

/-- A text configures no table exactly when one of its segments is more than blanks and writes no
pair. -/
theorem read_eq_error_iff {text : String} :
    (∃ pair, read text = .error pair) ↔
      ∃ segment ∈ text.toList.splitOn ',', ¬ AllBlank segment ∧ IsUnreadable segment := by
  constructor
  · rintro ⟨pair, failed⟩
    by_contra readable
    push Not at readable
    have read_all := readPairs_of_readable [] fun segment member =>
      or_iff_not_imp_left.mpr (readable segment member)
    rw [read, read_all] at failed
    cases failed
  · rintro ⟨segment, member, shown, unreadable⟩
    exact exists_readPairs_eq_error [] member shown unreadable

/-! ## Written pairs -/

/-- A run of blanks. -/
abbrev Blanks := { blanks : List Char // AllBlank blanks }

/-- A text that can be configured for a token or an owner: it is not empty, has no blanks at its
ends, and holds no comma. -/
structure Part where
  /-- The text. -/
  text : List Char
  ne_nil : text ≠ []
  isTight : IsTight text
  comma_not_mem : ',' ∉ text

/-- A token and its owner as they are written, with the blanks around each. -/
structure Pair where
  /-- The token. -/
  token : Part
  /-- The owner. -/
  owner : Part
  sign_not_mem : '=' ∉ token.text
  /-- The blanks before the token. -/
  beforeToken : Blanks
  /-- The blanks between the token and the sign of equality. -/
  afterToken : Blanks
  /-- The blanks between the sign of equality and the owner. -/
  beforeOwner : Blanks
  /-- The blanks after the owner. -/
  afterOwner : Blanks

/-- What stands between two commas: blanks or a pair. -/
inductive Segment where
  /-- Nothing but blanks. -/
  | gap (blanks : Blanks)
  /-- A pair. -/
  | pair (written : Pair)

theorem Part.not_allBlank (part : Part) : ¬ AllBlank part.text := by
  rw [← trim_eq_nil_iff, trim_of_isTight part.isTight]
  exact part.ne_nil

/-- A part is what trimming leaves of it between blanks. -/
theorem Part.trim_eq (part : Part) (before after : Blanks) :
    trim (before ++ part.text ++ after) = part.text :=
  trim_surrounded before.2 after.2 part.isTight

theorem Part.not_allBlank_surrounded (part : Part) (before after : Blanks) :
    ¬ AllBlank (before ++ part.text ++ after) := by
  simp only [allBlank_append_iff, part.not_allBlank, and_false, false_and, not_false_eq_true]

theorem Blanks.not_mem (blanks : Blanks) {c : Char} (visible : isBlank c = false) :
    c ∉ blanks.val :=
  blanks.2.not_mem c visible

namespace Segment

/-- A segment as it is written. -/
def text : Segment → List Char
  | gap blanks => blanks
  | pair written =>
      written.beforeToken ++ written.token.text ++ written.afterToken
        ++ '=' :: (written.beforeOwner ++ written.owner.text ++ written.afterOwner)

/-- The token and the owner that a segment says. -/
def said? : Segment → Option (String × String)
  | gap _ => none
  | pair written => some (String.ofList written.token.text, String.ofList written.owner.text)

/-- A segment holds no comma. -/
theorem comma_not_mem (segment : Segment) : ',' ∉ segment.text := by
  have visible : isBlank ',' = false := by decide
  cases segment with
  | gap blanks => exact blanks.not_mem visible
  | pair written =>
      simp [text, Blanks.not_mem _ visible, written.token.comma_not_mem,
        written.owner.comma_not_mem]

/-- A segment is read as what it says. -/
theorem readPair?_text (segment : Segment) : readPair? segment.text = segment.said? := by
  have visible : isBlank '=' = false := by decide
  cases segment with
  | gap blanks => exact readPair?_of_not_mem (blanks.not_mem visible)
  | pair written =>
      have absent : '=' ∉ written.beforeToken ++ written.token.text ++ written.afterToken := by
        simp [Blanks.not_mem _ visible, written.sign_not_mem]
      rw [text, readPair?_append absent, Part.trim_eq, Part.trim_eq, if_neg]
      · rfl
      · exact not_or.mpr
          ⟨written.token.not_allBlank_surrounded _ _, written.owner.not_allBlank_surrounded _ _⟩

/-- A segment is blank or writes a pair. -/
theorem allBlank_or_readable (segment : Segment) :
    AllBlank segment.text ∨ ¬ IsUnreadable segment.text := by
  rw [← readPair?_eq_none_iff, readPair?_text]
  cases segment with
  | gap blanks => exact .inl blanks.2
  | pair written => exact .inr (Option.some_ne_none _)

end Segment

/-- Segments as they are configured, with commas between them. -/
def configured (segments : List Segment) : String :=
  String.ofList ([','].intercalate (segments.map Segment.text))

/-- Configured segments are read one by one. -/
theorem read_configured (segments : List Segment) :
    read (configured segments) = .ok (Named.putAll [] (segments.filterMap Segment.said?)) := by
  rcases segments with _ | ⟨first, rest⟩
  · rfl
  · have split : (configured (first :: rest)).toList.splitOn ','
        = (first :: rest).map Segment.text := by
      rw [configured, String.toList_ofList]
      refine List.splitOn_intercalate ',' ?_ (by simp)
      intro text member
      rcases List.mem_map.mp member with ⟨segment, -, rfl⟩
      exact segment.comma_not_mem
    rw [read, split, readPairs_of_readable, List.filterMap_map]
    · exact congrArg (fun reader => Except.ok (Named.putAll [] ((first :: rest).filterMap reader)))
        (funext Segment.readPair?_text)
    · intro text member
      rcases List.mem_map.mp member with ⟨segment, -, rfl⟩
      exact segment.allBlank_or_readable

/-- A token that is looked up among the pairs of some segments is a part of one of them. -/
theorem exists_part_of_lookup {segments : List Segment} {token owner : String}
    (found : (segments.filterMap Segment.said?).reverse.lookup token = some owner) :
    ∃ part : Part, String.ofList part.text = token := by
  rcases List.lookup_eq_some_iff.mp found with ⟨earlier, later, parts_eq, -⟩
  have member : (token, owner) ∈ segments.filterMap Segment.said? := by
    rw [← List.mem_reverse, parts_eq]
    exact List.mem_append_right _ List.mem_cons_self
  rcases List.mem_filterMap.mp member with ⟨segment, -, said⟩
  cases segment with
  | gap blanks => cases said
  | pair written => exact ⟨written.token, congrArg Prod.fst (Option.some.inj said)⟩

/-- However pairs are configured, the table that is read holds each token once, with the owner of
its last pair, and a header acts for an owner exactly when it carries a token of this owner.  A
text configures no table exactly when a segment between its commas is more than blanks and has no
sign of equality, or only blanks on one side of the first. -/
theorem configured_token_authenticates (segments : List Segment) :
    (∃ tokens, read (configured segments) = .ok tokens
      ∧ (tokens.map Prod.fst).Nodup
      ∧ (∀ token, tokens.owner? token = (segments.filterMap Segment.said?).reverse.lookup token)
      ∧ ∀ header owner, (Bearer.token? (some header)).bind tokens.owner? = some owner ↔
          ∃ token, Bearer.Carries header token
            ∧ (segments.filterMap Segment.said?).reverse.lookup token = some owner)
      ∧ ∀ text, (∃ pair, read text = .error pair) ↔
          ∃ segment ∈ text.toList.splitOn ',', ¬ AllBlank segment ∧ IsUnreadable segment := by
  have owner_eq : ∀ token, ApiTokens.owner? (Named.putAll [] (segments.filterMap Segment.said?))
      token = (segments.filterMap Segment.said?).reverse.lookup token := by
    intro token
    rw [owner?, Named.get?_putAll, Named.get?_nil, Option.or_none]
  refine ⟨⟨_, read_configured segments, Named.nodup_names_putAll _ List.nodup_nil, owner_eq,
    fun header owner => ?_⟩, fun text => read_eq_error_iff⟩
  rw [Option.bind_eq_some_iff]
  constructor
  · rintro ⟨token, found, owned⟩
    exact ⟨token, (Bearer.token?_eq_some_iff.mp found).1, owner_eq token ▸ owned⟩
  · rintro ⟨token, carried, owned⟩
    rcases exists_part_of_lookup owned with ⟨part, rfl⟩
    refine ⟨_, Bearer.token?_eq_some_iff.mpr ⟨carried, ?_, ?_⟩, (owner_eq _).trans owned⟩
    · intro empty
      exact part.ne_nil (by simpa using congrArg String.toList empty)
    · rw [String.toList_ofList]
      exact part.isTight

/-- A token with a space in it, configured for two owners one after the other, with a segment of
blanks between the pairs. -/
def twice : List Segment :=
  let token : Part := ⟨"x y".toList, by decide, by decide, by decide⟩
  let pair (owner : Part) : Segment :=
    .pair ⟨token, owner, by decide, ⟨" ".toList, by decide⟩, ⟨"\t".toList, by decide⟩,
      ⟨[], allBlank_nil⟩, ⟨" ".toList, by decide⟩⟩
  [pair ⟨"ana".toList, by decide, by decide, by decide⟩, .gap ⟨" ".toList, by decide⟩,
    pair ⟨"b=c".toList, by decide, by decide, by decide⟩]

/-- The second owner is who a header with the token acts for. -/
theorem configured_token_authenticates_twice :
    ∃ tokens, read (configured twice) = .ok tokens
      ∧ (Bearer.token? (some " bEARer   x y\n")).bind tokens.owner? = some "b=c" := by
  rcases (configured_token_authenticates twice).1 with ⟨tokens, was_read, -, -, authenticates⟩
  refine ⟨tokens, was_read, (authenticates _ _).mpr ⟨"x y", ?_, by decide⟩⟩
  exact ⟨" ".toList, "bEARer".toList, "  ".toList, "\n".toList, by decide, by decide, by decide,
    by decide, by decide⟩

end ApiTokens

end Cashbook
