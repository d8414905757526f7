import Cashbook.Date.Phrase.Parts
import Cashbook.Decimal.Reader
import Cashbook.Text.Search

/-!
# Reading the tokens of a date phrase

The tokens are read from left to right.  What a number means depends on its length and on the
tokens around it: digits run together, a time with a colon or a unit, a date joined by hyphens,
slashes or points, or a single part of a date.  Each step uses up its token and perhaps some that
follow.
-/

namespace Cashbook.Date.Phrase

open Text

/-- What has been read so far. -/
structure Reading where
  /-- The numbers of the date. -/
  parts : Parts := {}
  /-- The weekday, counted from Monday as zero. -/
  weekday : Option Nat := none
  /-- The hour of the day. -/
  hour : Option Nat := none
  /-- The minute of the hour. -/
  minute : Option Nat := none
  /-- The second of the minute. -/
  second : Option Nat := none
  /-- Has a zone been named? -/
  zoneNamed : Bool := false
  /-- The distance to world time in seconds, positive for a clock that is ahead of it. -/
  zoneOffset : Option Int := none

/-- A step's result: what is read now, and how many of the following tokens are used up. -/
abbrev Step := Except Obstacle (Reading × Nat)

/-- The number that a token writes, if it is a finite one. -/
def numberOf? (token : Token) : Option Decimal :=
  match Decimal.read token with
  | .ok value => if value.isFinite then some value else none
  | .error _ => none

/-- The part of a number behind the point. -/
def fractionOf (value : Decimal) : Except Obstacle Decimal :=
  match value.fraction with
  | .ok part => .ok part
  | .error error => .error (.arithmetic error)

/-- Sixty times a part of one, without what is behind the point. -/
def sixtyTimes (part : Decimal) : Nat :=
  match part with
  | .finite _ coefficient exponent =>
      match Decimal.fit false (60 * coefficient) exponent with
      | .ok product => product.wholePart
      | .error _ => 0
  | _ => 0

/-- Minutes and, from the part behind the point, seconds. -/
def minutesOf (value : Decimal) : Except Obstacle (Nat × Option Nat) := do
  let part ← fractionOf value
  return (value.wholePart, if part.isNonzero then some (sixtyTimes part) else none)

/-- Whole seconds; a part behind the point must be a number too. -/
def secondsOf (token : Token) : Except Obstacle Nat :=
  match cut? '.' token with
  | none => natOf token
  | some (whole, part) =>
      if part.contains '.' then .error .unknownFormat
      else do
        let seconds ← natOf whole
        let _ ← natOf ((part ++ List.replicate (6 - part.length) '0').take 6)
        return seconds

/-- Sets what a number with a unit of time says. -/
def Reading.setUnit (reading : Reading) (unit : Nat) (token : Token) (value : Decimal) :
    Except Obstacle Reading :=
  match unit with
  | 0 => do
      let part ← fractionOf value
      return { reading with
        hour := value.wholePart
        minute := if part.isNonzero then some (sixtyTimes part) else reading.minute }
  | 1 => do
      let (minute, second) ← minutesOf value
      return { reading with minute := minute, second := second }
  | 2 => do
      return { reading with second := ← secondsOf token }
  | _ => .ok reading

/-- The unit of time that belongs to a number, and how many tokens it takes behind it.  A unit
behind the number goes first; a unit before it says that the number counts the next smaller one. -/
def unitBeside? (before rest : List Token) : Option (Nat × Nat) :=
  match rest.head?.bind unit? with
  | some unit => some (unit, 1)
  | none =>
      match (if rest.head? = some [' '] then rest[1]?.bind unit? else none) with
      | some unit => some (unit, 2)
      | none =>
          match before.head?.bind unit? with
          | some unit => some (unit + 1, 0)
          | none =>
              if rest = [] ∧ before.head? = some [' '] then
                (before[1]?.bind unit?).map fun unit => (unit + 1, 0)
              else
                none

/-- Two digits of a token, from a place on. -/
def pairAt (token : Token) (place : Nat) : Except Obstacle Nat :=
  natOf ((token.drop place).take 2)

/-- Digits run together behind a full date: an hour, and perhaps a minute. -/
def readClockDigits (reading : Reading) (token : Token) : Step := do
  let hour ← pairAt token 0
  if token.length = 4 then
    return ({ reading with hour := hour, minute := ← natOf (token.drop 2) }, 0)
  else
    return ({ reading with hour := hour }, 0)

/-- Six digits run together: a date, or behind one a time of day. -/
def readSixDigits (reading : Reading) (token : Token) : Step := do
  if reading.parts.values = [] ∧ !token.contains '.' then
    let parts ← reading.parts.pushToken (token.take 2)
    let parts ← parts.pushToken ((token.drop 2).take 2)
    let parts ← parts.pushToken (token.drop 4)
    return ({ reading with parts := parts }, 0)
  else
    let hour ← pairAt token 0
    let minute ← pairAt token 2
    let second ← secondsOf (token.drop 4)
    return ({ reading with hour := hour, minute := minute, second := second }, 0)

/-- Eight, twelve or fourteen digits run together: a date with its century, and perhaps a time. -/
def readManyDigits (reading : Reading) (token : Token) : Step := do
  let parts ← reading.parts.pushYearToken (token.take 4)
  let parts ← parts.pushToken ((token.drop 4).take 2)
  let parts ← parts.pushToken ((token.drop 6).take 2)
  let reading := { reading with parts := parts }
  if token.length = 8 then
    return (reading, 0)
  let hour ← pairAt token 8
  let minute ← pairAt token 10
  let reading := { reading with hour := hour, minute := minute }
  if token.length = 12 then
    return (reading, 0)
  return ({ reading with second := ← natOf (token.drop 12) }, 0)

/-- A time with colons. -/
def readClock (reading : Reading) (value : Decimal) (minuteToken : Token) (rest : List Token) :
    Step := do
  let some minutes := numberOf? minuteToken | throw .unknownFormat
  let (minute, second) ← minutesOf minutes
  let reading := { reading with hour := value.wholePart, minute := minute, second := second }
  match rest with
  | [':'] :: secondToken :: _ =>
      return ({ reading with second := ← secondsOf secondToken }, 4)
  | _ => return (reading, 2)

/-- A month by name, or else a number as it is written. -/
def pushNameOrToken (parts : Parts) (token : Token) : Except Obstacle Parts :=
  match month? token with
  | some month => parts.pushMonth month
  | none => parts.pushToken token

/-- The second member of a joined date: digits, or a month by name. -/
def pushMember (parts : Parts) (token : Token) : Except Obstacle Parts :=
  if token ≠ [] ∧ token.all showsDigit then parts.pushToken token
  else
    match month? token with
    | some month => parts.pushMonth month
    | none => .error .unknownFormat

/-- A date whose members are joined by one mark. -/
def readJoined (reading : Reading) (token mark : Token) (rest : List Token) : Step := do
  let parts ← reading.parts.pushToken token
  match rest with
  | [] => return ({ reading with parts := parts }, 1)
  | next :: behind =>
      if isJoint next then
        return ({ reading with parts := parts }, 1)
      let parts ← pushMember parts next
      match behind with
      | sameMark :: more =>
          if sameMark = mark then
            match more with
            | third :: _ => return ({ reading with parts := ← pushNameOrToken parts third }, 4)
            | [] => throw .unknownFormat
          else
            return ({ reading with parts := parts }, 2)
      | [] => return ({ reading with parts := parts }, 2)

/-- A number on its own: an hour before a half of the day, or a part of the date. -/
def readSingle (reading : Reading) (value : Decimal) (rest : List Token) : Step :=
  match rest[1]?.bind dayHalf? with
  | some half => .ok ({ reading with hour := hourIn value.wholePart half }, 2)
  | none => do return ({ reading with parts := ← reading.parts.pushNumber value }, 1)

/-- A number before anything else: an hour of a half of the day, or a day. -/
def readLoose (reading : Reading) (value : Decimal) (next : Token) : Step :=
  match dayHalf? next with
  | some half =>
      if value.order? (.ofInt 24) = some .lt then
        .ok ({ reading with hour := hourIn value.wholePart half }, 1)
      else
        readDay
  | none => readDay
where
  /-- The number as a day, if it can be one. -/
  readDay : Step :=
    if reading.parts.couldBeDay value then do
      return ({ reading with parts := ← reading.parts.pushNumber value }, 0)
    else
      .error .unknownFormat

/-- Do these digits behind a full date tell the time? -/
def tellsTime (reading : Reading) (token : Token) (rest : List Token) : Bool :=
  reading.parts.values.length == 3 && (token.length == 2 || token.length == 4)
    && reading.hour.isNone
    && match rest with
      | [] => true
      | next :: _ => next != [':'] && (unit? next).isNone

/-- Reads a number. -/
def readNumber (before : List Token) (token : Token) (value : Decimal) (rest : List Token)
    (reading : Reading) : Step :=
  let length := token.length
  if tellsTime reading token rest then readClockDigits reading token
  else if length = 6 ∨ (6 < length ∧ token.findIdx? (· = '.') = some 6) then
    readSixDigits reading token
  else if length = 8 ∨ length = 12 ∨ length = 14 then readManyDigits reading token
  else
    match unitBeside? before rest with
    | some (unit, used) => do return (← reading.setUnit unit token value, used)
    | none =>
        match rest with
        | [] => readSingle reading value rest
        | next :: behind =>
            match next, behind with
            | [':'], minuteToken :: more => readClock reading value minuteToken more
            | _, _ =>
                if next = ['-'] ∨ next = ['/'] ∨ next = ['.'] then
                  readJoined reading token next behind
                else if isJoint next then readSingle reading value rest
                else readLoose reading value next

/-- Reads a month name with what is joined to it. -/
def readMonth (currentYear : Nat) (month : Nat) (rest : List Token) (reading : Reading) : Step := do
  let parts ← reading.parts.pushMonth month
  match rest with
  | mark :: behind =>
      if mark = ['-'] ∨ mark = ['/'] then
        match behind with
        | second :: more =>
            let parts ← parts.pushToken second
            match more with
            | sameMark :: last =>
                if sameMark = mark then
                  match last with
                  | third :: _ => return ({ reading with parts := ← parts.pushToken third }, 4)
                  | [] => throw .unknownFormat
                else
                  return ({ reading with parts := parts }, 2)
            | [] => return ({ reading with parts := parts }, 2)
        | [] => throw .unknownFormat
      else
        match rest with
        | [' '] :: ['o', 'f'] :: [' '] :: year :: _ =>
            if year ≠ [] ∧ year.all showsDigit then
              let full := windowedYear currentYear (← natOf year)
              return ({ reading with parts := ← parts.pushFullYear full }, 4)
            else
              return ({ reading with parts := parts }, 4)
        | _ => return ({ reading with parts := parts }, 0)
  | [] => return ({ reading with parts := parts }, 0)

/-- Reads the distance to world time behind its sign: hours and minutes run together, or hours and
perhaps minutes behind a colon. -/
def readOffset (ahead : Bool) (rest : List Token) (reading : Reading) : Step :=
  let done (hours minutes used : Nat) : Step :=
    let seconds : Int := hours * 3600 + minutes * 60
    .ok ({ reading with zoneOffset := some (if ahead then seconds else -seconds) }, used)
  match rest with
  | [] => .error .unknownFormat
  | digits :: behind =>
      if digits.length = 4 then do
        done (← pairAt digits 0) (← natOf (digits.drop 2)) 1
      else
        match behind with
        | [':'] :: minutes => do
            let hours ← natOf digits
            match minutes with
            | minuteToken :: _ => done hours (← natOf minuteToken) 3
            | [] => throw .unknownFormat
        | _ =>
            if digits.length ≤ 2 then do
              done (← natOf digits) 0 1
            else
              .error .unknownFormat

/-- Reads a half of the day behind its hour. -/
def readDayHalf (half : Nat) (reading : Reading) : Step :=
  match reading.hour with
  | some hour =>
      if hour ≤ 12 then .ok ({ reading with hour := hourIn hour half }, 0)
      else .error .unknownFormat
  | none => .error .unknownFormat

/-- Reads the name of a zone behind an hour.  In small letters only world time has one.  A sign
behind it starts a distance instead, which tells how far world time is ahead of the clock. -/
def readZone (rest : List Token) (reading : Reading) : Step :=
  match rest with
  | sign :: behind =>
      if sign = ['+'] ∨ sign = ['-'] then do
        let (reading, used) ← readOffset (sign = ['-']) behind reading
        return (reading, used + 1)
      else
        named
  | [] => named
where
  /-- World time by its name. -/
  named : Step :=
    .ok ({ reading with zoneNamed := true, zoneOffset := some 0 }, 0)

/-- Reads a token that is no number. -/
def readWord (currentYear : Nat) (token : Token) (rest : List Token) (reading : Reading) : Step :=
  match weekday? token with
  | some weekday => .ok ({ reading with weekday := weekday }, 0)
  | none =>
      match month? token with
      | some month => readMonth currentYear month rest reading
      | none =>
          match dayHalf? token with
          | some half => readDayHalf half reading
          | none =>
              if reading.hour.isSome && !reading.zoneNamed && reading.zoneOffset.isNone
                  && token == ['z'] then
                readZone rest reading
              else if reading.hour.isSome && (token == ['+'] || token == ['-']) then
                readOffset (token == ['+']) rest reading
              else if isJoint token then .ok (reading, 0)
              else .error .unknownFormat

/-- Reads one token. -/
def readToken (currentYear : Nat) (before : List Token) (token : Token) (rest : List Token)
    (reading : Reading) : Step :=
  match numberOf? token with
  | some value => readNumber before token value rest reading
  | none => readWord currentYear token rest reading

/-- Reads all tokens behind those already read, the nearest of which comes first. -/
def readTokens (currentYear : Nat) (before : List Token) :
    List Token → Reading → Except Obstacle Reading
  | [], reading => .ok reading
  | token :: rest, reading =>
      match readToken currentYear before token rest reading with
      | .error obstacle => .error obstacle
      | .ok (reading, used) =>
          readTokens currentYear ((rest.take used).reverse ++ token :: before) (rest.drop used)
            reading
termination_by tokens => tokens.length
decreasing_by
  simp only [List.length_drop, List.length_cons]
  omega

end Cashbook.Date.Phrase
