import Cashbook.Proofs.Integer
import Cashbook.Proofs.Service.Tokens
import Cashbook.Service.Settings

/-!
# Configured deadlines

A deadline that is zero or less is refused, and so is a text that writes none.  What is accepted is
greater than zero or no number at all: a text that writes no number, in one of the spellings that
the grammar of numerals has for it, passes the comparison with zero and becomes the deadline.  In
every other environment there are settings with a deadline greater than zero, or there are none.
-/

namespace Cashbook

open Text Decimal

/-! ## Texts that write no number -/

namespace Binary64

variable {text name : List Char} {number : Binary64}

/-- Does a text write no number: its name in any letter case, perhaps with a sign, between white
space? -/
def WritesNotNumber (text : List Char) : Prop :=
  ∃ before sign name after,
    (∀ c ∈ before, isWhiteSpace c = true) ∧ (∀ c ∈ after, isWhiteSpace c = true)
      ∧ sign ∈ signTexts ∧ name.map Char.toLower = "nan".toList
      ∧ text = before ++ (sign ++ name) ++ after

/-- Does a character stand for itself in a numeral: is it no digit, no white space and no mark? -/
structure IsUnmarked (c : Char) : Prop where
  digitless : isDigit c = false
  visible : isWhiteSpace c = false
  plus : c ≠ '+'
  minus : c ≠ '-'
  underscore : c ≠ '_'

instance (c : Char) : Decidable (IsUnmarked c) :=
  decidable_of_iff
    (isDigit c = false ∧ isWhiteSpace c = false ∧ c ≠ '+' ∧ c ≠ '-' ∧ c ≠ '_')
    ⟨fun ⟨digitless, visible, plus, minus, underscore⟩ =>
        ⟨digitless, visible, plus, minus, underscore⟩,
      fun unmarked => ⟨unmarked.digitless, unmarked.visible, unmarked.plus, unmarked.minus,
        unmarked.underscore⟩⟩

/-- The name of no number is made of letters. -/
theorem isUnmarked_of_isNotNumberName (named : isNotNumberName name = true) :
    ∀ c ∈ name, IsUnmarked c := by
  have checked : ("nan".toList.all fun c => IsPlain c) = true := by decide
  have plain : ∀ c ∈ "nan".toList, IsPlain c := by simpa using checked
  intro c member
  have small : c.toLower ∈ "nan".toList := beq_iff_eq.mp named ▸ List.mem_map_of_mem member
  exact of_isPlain_toLower IsUnmarked (by decide +kernel) (plain c.toLower small)

/-- What is near to a finite number is a number. -/
theorem ofDecimal_finite_ne_notNumber (negative : Bool) (coefficient : Nat) (exponent : Int) :
    ofDecimal (.finite negative coefficient exponent) ≠ .notNumber := by
  rw [ofDecimal]
  cases ofDecimalSize? coefficient exponent with
  | none => exact nofun
  | some steps => exact nofun

/-- Digits are read as a number. -/
theorem ofNumeral?_ne_notNumber (negative : Bool) (text : List Char) :
    ofNumeral? negative text ≠ some .notNumber := by
  unfold ofNumeral?
  dsimp only
  split_ifs
  · exact nofun
  · rw [Ne, Option.map_eq_some_iff]
    rintro ⟨exponent, -, near⟩
    exact ofDecimal_finite_ne_notNumber _ _ _ near

/-- No number is read exactly from the texts that write none. -/
theorem read?_eq_notNumber_iff : read? text = some .notNumber ↔ WritesNotNumber text := by
  unfold read?
  rw [Option.bind_eq_bind, Option.bind_eq_some_iff]
  constructor
  · rintro ⟨bare, left, read⟩
    dsimp only at read
    split_ifs at read with infinity named
    · cases read
    · rcases Integer.exists_of_dropSeparators_trimBy left with ⟨before, sign, name, after,
        gone_before, gone_after, isSign, text_eq, left_name, -⟩
      obtain rfl := Integer.eq_of_dropSeparatorsAfter
        (fun c member => (isUnmarked_of_isNotNumberName named c member).digitless) left_name
      exact ⟨before, sign, _, after, gone_before, gone_after, isSign, beq_iff_eq.mp named, text_eq⟩
    · exact absurd read (ofNumeral?_ne_notNumber _ _)
  · rintro ⟨before, sign, name, after, gone_before, gone_after, isSign, name_eq, rfl⟩
    have named : isNotNumberName name = true := beq_iff_eq.mpr name_eq
    have letters := isUnmarked_of_isNotNumberName named
    have signed_eq : readSign (sign ++ name) = (decide (sign = ['-']), name) :=
      readSign_append isSign fun c head =>
        have letter := letters c (List.mem_of_mem_head? head)
        ⟨letter.plus, letter.minus⟩
    have no_infinity : isInfinityName name = false := by
      simp [isInfinityName, name_eq]
    refine ⟨sign ++ name, ?_, ?_⟩
    · rw [Integer.dropSeparators_trimBy_surrounded gone_before gone_after isSign
        fun c inside => (letters c inside).visible, dropSeparators,
        Integer.dropSeparatorsAfter_of_not_mem fun inside => (letters '_' inside).underscore rfl]
      rfl
    · rw [signed_eq]
      simp [no_infinity, named]

/-- What is not zero or less is greater than zero, unless it is no number. -/
theorem isPositive_iff_of_isNotPositive (passed : number.isNotPositive = false) :
    number.isPositive = true ↔ number ≠ .notNumber := by
  cases number with
  | finite negative steps => simp_all [isPositive, isNotPositive]
  | infinite negative => simp_all [isPositive, isNotPositive]
  | notNumber => simp [isPositive]

end Binary64

/-! ## Deadlines of settings -/

/-- The text of the deadline in an environment. -/
def Environment.deadlineText (environment : Environment) : String :=
  (environment.get? Environment.requestTimeout).getD "5"

/-- The text of the tokens in an environment. -/
def Environment.tokensText (environment : Environment) : String :=
  (environment.get? Environment.apiTokens).getD ""

/-- Is every segment between the commas of the tokens blank, or a pair? -/
def Environment.HasReadableTokens (environment : Environment) : Prop :=
  ∀ segment ∈ environment.tokensText.toList.splitOn ',',
    AllBlank segment ∨ ¬ApiTokens.IsUnreadable segment

/-- Is a number of seconds greater than zero? -/
def Timeout.IsPositive : Timeout → Prop
  | whole seconds => 0 < seconds
  | binary seconds => seconds.isPositive = true

instance : DecidablePred Timeout.IsPositive
  | .whole seconds => inferInstanceAs (Decidable (0 < seconds))
  | .binary seconds => inferInstanceAs (Decidable (seconds.isPositive = true))

/-- Is an error about a value that cannot be used? -/
def SettingsError.IsOfValue : SettingsError → Prop
  | unreadableTimeout _ | timeoutNotPositive | malformedToken _ => True
  | unknownOverride _ => False

namespace Settings

variable {environment : Environment} {site : Site} {settings : Settings} {error : SettingsError}
  {text : String} {seconds : Binary64}

/-- Is an outcome an error about a value, or settings with a deadline greater than zero? -/
def IsRefusedOrPositive : Except SettingsError Settings → Prop
  | .error error => error.IsOfValue
  | .ok settings => settings.requestTimeout.IsPositive

/-- A deadline is a number that is read and not zero or less. -/
theorem readTimeout_eq_ok_iff : readTimeout text = .ok seconds ↔
    Binary64.read? text.toList = some seconds ∧ seconds.isNotPositive = false := by
  unfold readTimeout
  cases Binary64.read? text.toList with
  | none => simp
  | some read =>
      dsimp only
      split_ifs with refused
      · simp only [Option.some.injEq, false_iff]
        rintro ⟨rfl, passed⟩
        exact Bool.false_ne_true (passed.symm.trans refused)
      · rw [Except.ok.injEq, Option.some.injEq, iff_self_and]
        rintro rfl
        exact Bool.not_eq_true _ ▸ refused

theorem isOfValue_of_readTimeout (failed : readTimeout text = .error error) : error.IsOfValue := by
  unfold readTimeout at failed
  split at failed
  next => exact Except.error.inj failed ▸ trivial
  next =>
    split_ifs at failed
    exact Except.error.inj failed ▸ trivial

theorem isOfValue_of_readTokens (failed : readTokens text = .error error) : error.IsOfValue := by
  unfold readTokens at failed
  split at failed
  next => cases failed
  next => exact Except.error.inj failed ▸ trivial

/-- The tokens of an environment are read exactly when each segment is blank or a pair. -/
theorem hasReadableTokens_iff : environment.HasReadableTokens ↔
    ∃ tokens, readTokens environment.tokensText = .ok tokens := by
  have failed_iff := @ApiTokens.read_eq_error_iff environment.tokensText
  unfold readTokens
  cases read : ApiTokens.read environment.tokensText with
  | ok tokens =>
      refine iff_of_true (fun segment member => ?_) ⟨tokens, rfl⟩
      by_contra unfit
      rw [not_or, not_not] at unfit
      obtain ⟨pair, failed⟩ := failed_iff.mpr ⟨segment, member, unfit⟩
      rw [read] at failed
      cases failed
  | error pair =>
      obtain ⟨segment, member, shown, unreadable⟩ := failed_iff.mp ⟨pair, read⟩
      refine iff_of_false (fun readable => ?_) nofun
      exact (readable segment member).elim shown fun fit => fit unreadable

/-- Without overrides, an environment is refused for one of its values, or it has a deadline and
tokens that can be read, and the settings have this deadline. -/
theorem ofEnvironment_cases (environment : Environment) (site : Site) :
    (∃ error, ofEnvironment environment {} site = .error error ∧ error.IsOfValue
        ∧ ∀ seconds, readTimeout environment.deadlineText = .ok seconds →
          ¬environment.HasReadableTokens)
      ∨ ∃ settings seconds, ofEnvironment environment {} site = .ok settings
        ∧ settings.requestTimeout = .binary seconds
        ∧ readTimeout environment.deadlineText = .ok seconds ∧ environment.HasReadableTokens := by
  have outcome_eq : ofEnvironment environment {} site = do
      let seconds ← readTimeout environment.deadlineText
      let tokens ← readTokens environment.tokensText
      return {
        databaseUrl := chooseUrl environment none site
        requestTimeout := .binary seconds
        apiTokens := tokens
        logLevel := capitals ((environment.get? Environment.logLevel).getD "INFO") } := rfl
  rw [outcome_eq, hasReadableTokens_iff]
  cases read : readTimeout environment.deadlineText with
  | error failure => exact .inl ⟨failure, rfl, isOfValue_of_readTimeout read, nofun⟩
  | ok seconds =>
      cases pairs : readTokens environment.tokensText with
      | error failure => exact .inl ⟨failure, rfl, isOfValue_of_readTokens pairs, nofun⟩
      | ok tokens => exact .inr ⟨_, seconds, rfl, rfl, rfl, tokens, rfl⟩

/-- An environment is refused for one of its values or gives a deadline greater than zero, unless
its deadline writes no number and its tokens can be read.  The deadline of settings is the number
that the environment writes, and greater than zero exactly when it is a number. -/
theorem isRefusedOrPositive_iff (environment : Environment) (site : Site) :
    (IsRefusedOrPositive (ofEnvironment environment {} site)
      ↔ ¬(Binary64.WritesNotNumber environment.deadlineText.toList
        ∧ environment.HasReadableTokens))
    ∧ ∀ settings, ofEnvironment environment {} site = .ok settings →
        ∃ seconds, settings.requestTimeout = .binary seconds
          ∧ Binary64.read? environment.deadlineText.toList = some seconds
          ∧ (seconds.isPositive = true
            ↔ ¬Binary64.WritesNotNumber environment.deadlineText.toList) := by
  rcases ofEnvironment_cases environment site with
    ⟨error, refused, ofValue, unfit⟩ | ⟨settings, seconds, accepted, deadline_eq, timeout, fit⟩
  · rw [refused]
    refine ⟨iff_of_true ofValue ?_, nofun⟩
    rintro ⟨writes, fit⟩
    have timeout : readTimeout environment.deadlineText = .ok .notNumber :=
      readTimeout_eq_ok_iff.mpr ⟨Binary64.read?_eq_notNumber_iff.mpr writes, rfl⟩
    exact unfit _ timeout fit
  · obtain ⟨read, passed⟩ := readTimeout_eq_ok_iff.mp timeout
    have writes_iff : Binary64.WritesNotNumber environment.deadlineText.toList
        ↔ seconds = .notNumber := by
      rw [← Binary64.read?_eq_notNumber_iff, read, Option.some.injEq]
    have positive_iff := Binary64.isPositive_iff_of_isNotPositive passed
    rw [accepted, IsRefusedOrPositive, deadline_eq]
    refine ⟨?_, ?_⟩
    · rw [writes_iff, and_iff_left fit]
      exact positive_iff
    · rintro _ ⟨⟩
      exact ⟨seconds, deadline_eq, read, positive_iff.trans (not_congr writes_iff.symm)⟩

/-- Half a second, in an Arabic digit with a sign and an exponent, is a deadline. -/
theorem isRefusedOrPositive_iff_half :
    ∃ half, ofEnvironment [(Environment.requestTimeout, " +٥e-1 ")] {} ⟨none, "/root"⟩
        = .ok ⟨"sqlite:////root/.finchat/finchat.db", .binary half, [], "INFO"⟩
      ∧ half.isPositive = true := by
  have accepted : ∃ half, ofEnvironment [(Environment.requestTimeout, " +٥e-1 ")] {} ⟨none, "/root"⟩
      = .ok ⟨"sqlite:////root/.finchat/finchat.db", .binary half, [], "INFO"⟩ :=
    ⟨.finite false (Binary64.one / 2), by decide +kernel⟩
  have number : ¬Binary64.WritesNotNumber
      (Environment.deadlineText [(Environment.requestTimeout, " +٥e-1 ")]).toList := by
    rw [← Binary64.read?_eq_notNumber_iff]
    decide +kernel
  obtain ⟨half, accepted⟩ := accepted
  obtain ⟨seconds, deadline_eq, -, positive_iff⟩ := (isRefusedOrPositive_iff _ _).2 _ accepted
  obtain rfl := Timeout.binary.inj deadline_eq
  exact ⟨half, accepted, positive_iff.mpr number⟩

/-- The name of no number is accepted as a deadline. -/
theorem not_isRefusedOrPositive_nan :
    ¬IsRefusedOrPositive
      (ofEnvironment [(Environment.databaseUrl, "sqlite://"), (Environment.requestTimeout, "nan")]
        {} ⟨none, "/root"⟩) := by
  have accepted :
      ofEnvironment [(Environment.databaseUrl, "sqlite://"), (Environment.requestTimeout, "nan")]
          {} ⟨none, "/root"⟩
        = .ok ⟨"sqlite://", .binary .notNumber, [], "INFO"⟩ := by
    decide +kernel
  rw [accepted]
  exact Bool.false_ne_true

end Settings

end Cashbook
