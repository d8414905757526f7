import Cashbook.Chat.Command
import Cashbook.Proofs.Decimal.Printing
import Cashbook.Proofs.Money.Numerals
import Cashbook.Proofs.Text.Words

/-!
# The grammar of chat commands

A text asks for what its words say: the first word names a command, and a command to add an
expense has an amount, a description and a hint.  The grammar is a relation between texts and
intents, and every text is read by it.  An expense that is written as a command again is read as
the same expense.
-/

namespace Cashbook.Chat

open Text Money Decimal

variable {text word name description hint : List Char} {amount : Decimal}

/-! ## First words -/

/-- Is a word the command of this name: a slash and the name, behind which an address may stand? -/
def IsCommand (name word : List Char) : Prop :=
  word = '/' :: name ∨ ∃ address, word = '/' :: name ++ '@' :: address

/-- The names of the commands with a keyword. -/
def Keyword.names : Keyword → List String
  | add => ["add"]
  | balance => ["balance", "saldo"]
  | report => ["report", "relatorio"]
  | help => ["help", "start"]

/-- Is a word a command with this keyword? -/
def Keyword.IsCalledBy (keyword : Keyword) (word : List Char) : Prop :=
  ∃ name ∈ keyword.names, IsCommand name.toList word

theorem takeWhile_eq_iff_isCommand {rest : List Char} (no_mark : '@' ∉ name) :
    rest.takeWhile (· ≠ '@') = name ↔ IsCommand name ('/' :: rest) := by
  have kept : ∀ c ∈ name, decide (c ≠ '@') = true := by
    intro c member
    rw [decide_eq_true_iff]
    rintro rfl
    exact no_mark member
  constructor
  · rintro rfl
    have parts := (@List.takeWhile_append_dropWhile _ (fun c => decide (c ≠ '@')) rest).symm
    cases behind : rest.dropWhile fun c => decide (c ≠ '@') with
    | nil =>
        rw [behind, List.append_nil] at parts
        exact .inl (congrArg _ parts)
    | cons mark address =>
        have stops := List.head?_dropWhile_not (fun c => decide (c ≠ '@')) rest
        rw [behind] at stops
        have same : mark = '@' := by simpa using stops
        rw [behind, same] at parts
        exact .inr ⟨address, congrArg _ parts⟩
  · rintro (same | ⟨address, same⟩)
    · cases same
      rw [List.takeWhile_eq_self_iff]
      exact kept
    · rw [List.cons_append, List.cons.injEq] at same
      rw [same.2, List.takeWhile_append_of_pos kept]
      simp

theorem Keyword.ofName?_eq_some_iff {keyword : Keyword} :
    Keyword.ofName? name = some keyword ↔ ∃ known ∈ keyword.names, known.toList = name := by
  constructor
  · intro found
    unfold ofName? at found
    split_ifs at found with add balance report help
    · cases found
      exact ⟨"add", by decide, add.symm⟩
    · cases found
      rcases balance with same | same
      · exact ⟨"balance", by decide, same.symm⟩
      · exact ⟨"saldo", by decide, same.symm⟩
    · cases found
      rcases report with same | same
      · exact ⟨"report", by decide, same.symm⟩
      · exact ⟨"relatorio", by decide, same.symm⟩
    · cases found
      rcases help with same | same
      · exact ⟨"help", by decide, same.symm⟩
      · exact ⟨"start", by decide, same.symm⟩
  · rintro ⟨known, listed, rfl⟩
    revert known
    cases keyword <;> decide

/-- A word has the keyword of the command that it is. -/
theorem Keyword.ofWord?_eq_some_iff {keyword : Keyword} :
    Keyword.ofWord? word = some keyword ↔ keyword.IsCalledBy word := by
  have no_mark : ∀ keyword : Keyword, ∀ known ∈ keyword.names, '@' ∉ known.toList := by
    intro keyword
    cases keyword <;> decide
  unfold ofWord?
  split
  next rest =>
    rw [ofName?_eq_some_iff]
    refine exists_congr fun known => and_congr_right fun listed => ?_
    rw [← takeWhile_eq_iff_isCommand (no_mark keyword known listed), eq_comm]
  next unmarked =>
    constructor
    · nofun
    · rintro ⟨known, -, rfl | ⟨address, rfl⟩⟩
      · exact absurd rfl (unmarked _)
      · exact absurd rfl (unmarked _)

/-- A command is answered by its keyword. -/
theorem ofText_of_isCalledBy {keyword : Keyword} {command : List Char} {rest : List (List Char)}
    (parts : words text = command :: rest) (called : keyword.IsCalledBy command) :
    Intent.ofText text = match keyword with
      | .add => Intent.ofAddWords rest
      | .balance => .balance
      | .report => .report
      | .help => .help := by
  rw [Intent.ofText, parts]
  dsimp only
  rw [Keyword.ofWord?_eq_some_iff.mpr called]
  cases keyword <;> rfl

/-- A text is kept if its first word is no command. -/
theorem ofText_of_not_isCalledBy (uncalled : ∀ command rest, words text = command :: rest →
    ∀ keyword : Keyword, ¬keyword.IsCalledBy command) : Intent.ofText text = .freeText text := by
  unfold Intent.ofText
  split
  next => rfl
  next command rest parts =>
    have unknown : Keyword.ofWord? command = none := by
      rw [Option.eq_none_iff_forall_ne_some]
      exact fun keyword called =>
        uncalled command rest parts keyword (Keyword.ofWord?_eq_some_iff.mp called)
    rw [unknown]

/-! ## Commands to add an expense -/

/-- The words behind the command are an amount and a hint, and those between them are the
description.  With no word between them the hint is the description, too. -/
theorem ofAddWords_eq_addExpense_iff {rest : List (List Char)} :
    Intent.ofAddWords rest = .addExpense amount description hint
      ↔ ∃ amountWord body, rest = amountWord :: (body ++ [hint])
        ∧ readCommandAmount amountWord = .ok amount
        ∧ description = if body = [] then hint else joinWords body := by
  constructor
  · intro asked
    unfold Intent.ofAddWords at asked
    split at asked
    next amountWord first others =>
      split at asked
      next read =>
        simp only [Intent.addExpense.injEq] at asked
        obtain ⟨rfl, rfl, rfl⟩ := asked
        refine ⟨amountWord, (first :: others).dropLast, ?_, read, ?_⟩
        · rw [List.dropLast_append_getLast]
        · cases others with
          | nil => rfl
          | cons second more => simp
      next => cases asked
    next => cases asked
  · rintro ⟨amountWord, body, rfl, read, rfl⟩
    cases body with
    | nil => simp [Intent.ofAddWords, read]
    | cons first others =>
        have ends : ((first :: others) ++ [hint]).dropLast = first :: others :=
          List.dropLast_concat
        rw [List.cons_append] at ends
        simp [Intent.ofAddWords, read, ends]

/-- Such a command is read as an expense, whatever blanks stand around its words. -/
theorem ofText_eq_addExpense_iff : Intent.ofText text = .addExpense amount description hint
    ↔ ∃ command amountWord body, words text = command :: amountWord :: (body ++ [hint])
      ∧ Keyword.add.IsCalledBy command ∧ readCommandAmount amountWord = .ok amount
      ∧ description = if body = [] then hint else joinWords body := by
  constructor
  · intro asked
    unfold Intent.ofText at asked
    split at asked
    next => cases asked
    next command rest parts =>
      split at asked
      next called =>
        rcases ofAddWords_eq_addExpense_iff.mp asked with ⟨amountWord, body, rfl, read, described⟩
        exact ⟨command, amountWord, body, parts, Keyword.ofWord?_eq_some_iff.mp called, read,
          described⟩
      all_goals cases asked
  · rintro ⟨command, amountWord, body, parts, called, read, described⟩
    rw [ofText_of_isCalledBy parts called]
    exact ofAddWords_eq_addExpense_iff.mpr ⟨amountWord, body, rfl, read, described⟩

/-! ## The grammar -/

/-- What a text asks for, by its words. -/
inductive AsksFor (text : List Char) : Intent → Prop
  /-- One word behind the amount is both the description and the hint. -/
  | addWord {command amountWord word : List Char} {amount : Decimal}
      (parts : words text = [command, amountWord, word])
      (called : Keyword.add.IsCalledBy command) (written : WritesAmount amountWord amount) :
      AsksFor text (.addExpense amount word word)
  /-- The last word is the hint, and the words between it and the amount are the description. -/
  | addWords {command amountWord hint : List Char} {body : List (List Char)} {amount : Decimal}
      (parts : words text = command :: amountWord :: (body ++ [hint])) (some_word : body ≠ [])
      (called : Keyword.add.IsCalledBy command) (written : WritesAmount amountWord amount) :
      AsksFor text (.addExpense amount (joinWords body) hint)
  /-- Without two words behind it, the command is not understood. -/
  | addUsage {command : List Char} {rest : List (List Char)} (parts : words text = command :: rest)
      (called : Keyword.add.IsCalledBy command) (few : rest.length < 2) :
      AsksFor text (.malformed .addUsage)
  /-- Nor is it with a word that writes no amount. -/
  | addAmount {command amountWord : List Char} {rest : List (List Char)}
      (parts : words text = command :: amountWord :: rest) (some_word : rest ≠ [])
      (called : Keyword.add.IsCalledBy command)
      (unwritten : ∀ amount, ¬WritesAmount amountWord amount) :
      AsksFor text (.malformed .commandAmount)
  | balance {command : List Char} {rest : List (List Char)} (parts : words text = command :: rest)
      (called : Keyword.balance.IsCalledBy command) : AsksFor text .balance
  | report {command : List Char} {rest : List (List Char)} (parts : words text = command :: rest)
      (called : Keyword.report.IsCalledBy command) : AsksFor text .report
  | help {command : List Char} {rest : List (List Char)} (parts : words text = command :: rest)
      (called : Keyword.help.IsCalledBy command) : AsksFor text .help
  /-- A text whose first word is no command is kept. -/
  | freeText (uncalled : ∀ command rest, words text = command :: rest →
      ∀ keyword : Keyword, ¬keyword.IsCalledBy command) : AsksFor text (.freeText text)

/-- A word of a text has no line end, and it is in reach if the text is. -/
theorem readCommandAmount_word_iff (reach : IsInReach text) (listed : word ∈ words text) :
    readCommandAmount word = .ok amount ↔ WritesAmount word amount :=
  readCommandAmount_eq_ok_iff_writesAmount (isWord_of_mem_words listed).newline_not_mem
    ((length_le_of_mem_words listed).trans_lt reach)

/-- A command to add an expense is read by the grammar. -/
theorem asksFor_ofAddWords (reach : IsInReach text) {command : List Char}
    {rest : List (List Char)} (parts : words text = command :: rest)
    (called : Keyword.add.IsCalledBy command) : AsksFor text (Intent.ofAddWords rest) := by
  match rest with
  | [] => exact .addUsage parts called (by simp)
  | [single] => exact .addUsage parts called (by simp)
  | amountWord :: first :: others =>
      have word_iff : ∀ amount, readCommandAmount amountWord = .ok amount
          ↔ WritesAmount amountWord amount :=
        fun amount => readCommandAmount_word_iff reach (by simp [parts])
      cases read : readCommandAmount amountWord with
      | error error =>
          have refused : Intent.ofAddWords (amountWord :: first :: others)
              = .malformed .commandAmount := by
            rw [Intent.ofAddWords, read]
          rw [refused]
          refine .addAmount parts (List.cons_ne_nil _ _) called fun amount written => ?_
          cases read.symm.trans ((word_iff amount).mpr written)
      | ok amount =>
          have written := (word_iff amount).mp read
          cases others with
          | nil =>
              have told : Intent.ofAddWords [amountWord, first] = .addExpense amount first first :=
                ofAddWords_eq_addExpense_iff.mpr ⟨amountWord, [], rfl, read, rfl⟩
              rw [told]
              exact .addWord parts called written
          | cons second more =>
              obtain ⟨body, hint, rest_eq⟩ :
                  ∃ body hint, second :: more = body ++ [hint] :=
                ⟨_, _, (List.dropLast_append_getLast (List.cons_ne_nil second more)).symm⟩
              rw [rest_eq, ← List.cons_append] at parts ⊢
              have told : Intent.ofAddWords (amountWord :: ((first :: body) ++ [hint]))
                  = .addExpense amount (joinWords (first :: body)) hint :=
                ofAddWords_eq_addExpense_iff.mpr ⟨amountWord, first :: body, rfl, read, rfl⟩
              rw [told]
              exact .addWords parts (List.cons_ne_nil _ _) called written

/-- Every text is read by the grammar. -/
theorem asksFor_ofText (reach : IsInReach text) : AsksFor text (Intent.ofText text) := by
  by_cases uncalled : ∀ command rest, words text = command :: rest →
      ∀ keyword : Keyword, ¬keyword.IsCalledBy command
  · rw [ofText_of_not_isCalledBy uncalled]
    exact .freeText uncalled
  · push Not at uncalled
    rcases uncalled with ⟨command, rest, parts, keyword, called⟩
    rw [ofText_of_isCalledBy parts called]
    cases keyword with
    | add => exact asksFor_ofAddWords reach parts called
    | balance => exact .balance parts called
    | report => exact .report parts called
    | help => exact .help parts called

/-- The grammar leaves no choice. -/
theorem AsksFor.ofText_eq {intent : Intent} (reach : IsInReach text)
    (asks : AsksFor text intent) : Intent.ofText text = intent := by
  cases asks with
  | @addWord command amountWord word amount parts called written =>
      have read := (readCommandAmount_word_iff reach (by simp [parts])).mpr written
      exact ofText_eq_addExpense_iff.mpr ⟨command, amountWord, [], parts, called, read, rfl⟩
  | @addWords command amountWord hint body amount parts some_word called written =>
      have read := (readCommandAmount_word_iff reach (by simp [parts])).mpr written
      exact ofText_eq_addExpense_iff.mpr
        ⟨command, amountWord, body, parts, called, read, (if_neg some_word).symm⟩
  | @addUsage command rest parts called few =>
      rw [ofText_of_isCalledBy parts called]
      match rest, few with
      | [], _ => rfl
      | [single], _ => rfl
  | @addAmount command amountWord rest parts some_word called unwritten =>
      obtain ⟨first, others, rfl⟩ := List.exists_cons_of_ne_nil some_word
      rw [ofText_of_isCalledBy parts called]
      cases read : readCommandAmount amountWord with
      | ok amount =>
          exact absurd ((readCommandAmount_word_iff reach (by simp [parts])).mp read)
            (unwritten amount)
      | error error => simp [Intent.ofAddWords, read]
  | balance parts called => exact ofText_of_isCalledBy parts called
  | report parts called => exact ofText_of_isCalledBy parts called
  | help parts called => exact ofText_of_isCalledBy parts called
  | freeText uncalled => exact ofText_of_not_isCalledBy uncalled

/-! ## Writing commands -/

/-- An expense as a command: its amount in positional notation, its description and its hint. -/
def addCommand (amount : Decimal) (description hint : List Char) : List Char :=
  joinWords ["/add".toList, amount.positionalText, description, hint]

/-- The words of such a command. -/
theorem words_addCommand {body : List (List Char)} (number : IsWord amount.positionalText)
    (single : ∀ part ∈ body, IsWord part) (last : IsWord hint) :
    words (addCommand amount (joinWords body) hint)
      = "/add".toList :: amount.positionalText :: (body ++ [hint]) := by
  have command : IsWord "/add".toList := by decide
  rw [addCommand, words_joinWords_eq_flatMap, List.flatMap_cons, List.flatMap_cons,
    List.flatMap_cons, List.flatMap_cons, command.words_eq, number.words_eq, words_joinWords single,
    last.words_eq]
  rfl

/-- The amount of a command is a word in positional notation, and it is read again from it. -/
theorem readCommandAmount_positionalText (visible : IsWord word)
    (read : readCommandAmount word = .ok amount) :
    IsWord amount.positionalText ∧ readCommandAmount amount.positionalText = .ok amount := by
  obtain ⟨whole, places, -, -, -, -, written, cents⟩ :=
    (readCommandAmount_eq_ok_iff visible.newline_not_mem).mp read
  obtain rfl := eq_finite_of_ranged written
  rw [positionalText_of_places]
  rcases exists_pointText_eq (digitsValue (whole ++ places)) places.length with
    ⟨front, behind, text_eq, digits, some_digit, more, count, value⟩
  have number : IsWord (numeral '.' front behind) :=
    ⟨numeral_ne_nil some_digit, isBlank_of_mem_numeral digits more (by decide)⟩
  rw [text_eq]
  refine ⟨number, (readCommandAmount_eq_ok_iff number.newline_not_mem).mpr
    ⟨front, behind, digits, some_digit, more, rfl, ?_, cents⟩⟩
  rw [value, count]
  exact written

/-- An expense that is asked for is asked for again by its own command. -/
theorem ofText_addCommand (asked : Intent.ofText text = .addExpense amount description hint) :
    Intent.ofText (addCommand amount description hint) = .addExpense amount description hint := by
  rcases ofText_eq_addExpense_iff.mp asked with
    ⟨command, amountWord, body, parts, -, read, described⟩
  have single : ∀ part ∈ words text, IsWord part := fun part => isWord_of_mem_words
  rw [parts, List.forall_mem_cons, List.forall_mem_cons, List.forall_mem_append,
    List.forall_mem_singleton] at single
  obtain ⟨-, amount_single, body_single, hint_single⟩ := single
  obtain ⟨number, again⟩ := readCommandAmount_positionalText amount_single read
  have called : Keyword.add.IsCalledBy "/add".toList := ⟨"add", by decide, .inl rfl⟩
  -- A hint that is the description, too, is written twice.
  obtain ⟨shown, shown_single, some_shown, rfl⟩ : ∃ shown, (∀ part ∈ shown, IsWord part)
      ∧ shown ≠ [] ∧ description = joinWords shown := by
    split_ifs at described with none_between
    · refine ⟨[hint], List.forall_mem_singleton.mpr hint_single, List.cons_ne_nil _ _, ?_⟩
      rw [described, joinWords, List.intercalate_singleton]
    · exact ⟨body, body_single, none_between, described⟩
  exact ofText_eq_addExpense_iff.mpr ⟨_, _, shown, words_addCommand number shown_single hint_single,
    called, again, (if_neg some_shown).symm⟩

/-- In reach, a text asks for what the grammar says and for nothing else.  Every expense that is
asked for is asked for again by its own command. -/
theorem ofText_eq_iff_asksFor (text : List Char) :
    (IsInReach text → ∀ intent, Intent.ofText text = intent ↔ AsksFor text intent)
    ∧ ∀ amount description hint, Intent.ofText text = .addExpense amount description hint →
        Intent.ofText (addCommand amount description hint)
          = .addExpense amount description hint := by
  refine ⟨fun reach intent => ⟨?_, AsksFor.ofText_eq reach⟩, fun _ _ _ => ofText_addCommand⟩
  rintro rfl
  exact asksFor_ofText reach

/-- Bread is bought with a command that has an address, a needless zero and needless blanks. -/
theorem ofText_eq_iff_asksFor_bread :
    IsInReach "/add@finchat_bot  010.50 pão de queijo alimentação\n".toList
    ∧ Intent.ofText "/add@finchat_bot  010.50 pão de queijo alimentação\n".toList
      = .addExpense (finite false 1050 (-2)) "pão de queijo".toList "alimentação".toList
    ∧ Intent.ofText "/add 10.50 pão de queijo alimentação".toList
      = .addExpense (finite false 1050 (-2)) "pão de queijo".toList "alimentação".toList := by
  have grammar := ofText_eq_iff_asksFor
    "/add@finchat_bot  010.50 pão de queijo alimentação\n".toList
  have reach : IsInReach "/add@finchat_bot  010.50 pão de queijo alimentação\n".toList := by
    decide
  have written : WritesAmount "010.50".toList (finite false 1050 (-2)) :=
    ⟨"010".toList, "50".toList, by decide, by decide, by decide, by decide, by decide, 1050,
      by norm_num, by decide +kernel⟩
  have parts : words "/add@finchat_bot  010.50 pão de queijo alimentação\n".toList
      = "/add@finchat_bot".toList :: "010.50".toList
        :: (["pão".toList, "de".toList, "queijo".toList] ++ ["alimentação".toList]) := by
    decide
  have called : Keyword.add.IsCalledBy "/add@finchat_bot".toList :=
    ⟨"add", by decide, .inr ⟨"finchat_bot".toList, by decide⟩⟩
  have asked := (grammar.1 reach _).mpr (.addWords parts (List.cons_ne_nil _ _) called written)
  exact ⟨reach, asked, grammar.2 _ _ _ asked⟩

end Cashbook.Chat
