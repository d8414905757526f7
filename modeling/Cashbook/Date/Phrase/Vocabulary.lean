import Cashbook.Date.Phrase.Token

/-!
# The vocabulary of date phrases

The words that a date phrase in small letters may use: names of weekdays and months, units of
time, halves of the day, and joining words that carry no meaning.
-/

namespace Cashbook.Date.Phrase

/-- The position of the first entry that lists the word. -/
def position? (entries : List (List String)) (token : Token) : Option Nat :=
  entries.findIdx? fun names => names.any fun name => name.toList == token

/-- Weekdays, from Monday as zero. -/
def weekday? : Token → Option Nat :=
  position? [["mon", "monday"], ["tue", "tuesday"], ["wed", "wednesday"], ["thu", "thursday"],
    ["fri", "friday"], ["sat", "saturday"], ["sun", "sunday"]]

/-- Months, from January as one. -/
def month? (token : Token) : Option Nat :=
  (position? [["jan", "january"], ["feb", "february"], ["mar", "march"], ["apr", "april"],
    ["may"], ["jun", "june"], ["jul", "july"], ["aug", "august"], ["sep", "sept", "september"],
    ["oct", "october"], ["nov", "november"], ["dec", "december"]] token).map (· + 1)

/-- Units of time: hours are zero, minutes one, seconds two. -/
def unit? : Token → Option Nat :=
  position? [["h", "hour", "hours"], ["m", "minute", "minutes"], ["s", "second", "seconds"]]

/-- Halves of the day: before noon is zero, after noon is one. -/
def dayHalf? : Token → Option Nat :=
  position? [["am", "a"], ["pm", "p"]]

/-- Tokens that join the parts of a phrase. -/
def isJoint (token : Token) : Bool :=
  [" ", ".", ",", ";", "-", "/", "'", "at", "on", "and", "ad", "m", "t", "of", "st", "nd", "rd",
    "th"].any fun name => name.toList == token

/-- The hour of the day for an hour of one of its halves. -/
def hourIn (hour half : Nat) : Nat :=
  if hour < 12 ∧ half = 1 then hour + 12
  else if hour = 12 ∧ half = 0 then 0
  else hour

end Cashbook.Date.Phrase
