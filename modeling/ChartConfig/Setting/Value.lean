import ChartConfig.Pattern.Match
import ChartConfig.Text.Numeral

/-!
# Values

The grammars of setting values: numbers, dates, calendar expressions, intervals and the words for true
and false. A value that holds an expression `@{…}` or `${…}` is computed when the chart is drawn and is
not checked. Digits are those of any script.
-/

namespace ChartConfig.Value

open Text

def booleanWords : List String :=
  ["false", "no", "null", "none", "0", "off", "true", "yes", "on", "1"]

def intervalUnits : List String :=
  ["nanosecond", "millisecond", "second", "minute", "hour", "day", "week", "month", "quarter", "year"]

def calendarWords : List String :=
  ["current_day", "current_hour", "current_minute", "current_month", "current_quarter", "current_week",
    "current_year", "first_day", "first_vacation_day", "first_working_day", "friday",
    "last_vacation_day", "last_working_day", "monday", "next_day", "next_hour", "next_minute",
    "next_month", "next_quarter", "next_vacation_day", "next_week", "next_working_day", "next_year",
    "now", "previous_day", "previous_hour", "previous_minute", "previous_month", "previous_quarter",
    "previous_vacation_day", "previous_week", "previous_working_day", "previous_year", "saturday",
    "sunday", "thursday", "tuesday", "wednesday"]

/-- After the opening brace of an expression: at least one character, on the same line, and a closing
    brace. -/
def closesExpression (cs : List Char) : Bool :=
  (cs.drop 1 |>.takeWhile (· != '\n')).contains '}' && cs.head? != some '\n'

/-- The value holds an expression that is computed when the chart is drawn. -/
def isCalculated : List Char → Bool
  | [] => false
  | c :: cs =>
    ((c == '@' || c == '$') &&
        match cs with
        | '{' :: rest => closesExpression rest
        | _ => false) ||
      isCalculated cs

def isDigits (cs : List Char) : Bool :=
  !cs.isEmpty && cs.all isDigit

def isInteger (cs : List Char) : Bool :=
  isDigits (dropSign cs)

def isNumber (cs : List Char) : Bool :=
  let body := dropSign cs
  match body.dropWhile isDigit with
  | [] => !body.isEmpty
  | '.' :: places => isDigits places
  | _ => false

def isBoolean (cs : List Char) : Bool :=
  booleanWords.any fun word => sameFold cs word.toList

section
open Pattern

def amount : Pattern :=
  plus digit ||| (star digit ++ char '.' ++ plus digit)

def unit : Pattern :=
  oneOf (intervalUnits.map caseless)

/-- A moment of the calendar, and possibly an offset: `now - 2 * hour`. -/
def calendar : Pattern :=
  oneOf (calendarWords.map caseless) ++
    optional (gaps ++ (char '-' ||| char '+') ++ gaps ++ amount ++ gaps ++ char '*' ++ gaps ++ unit)

/-- An amount of a unit, or one of three words: `5 minute`, `@{span} day`, `all`. -/
def interval : Pattern :=
  (optional (char '-' ||| char '+') ++
      (amount ||| (literal "@\x7b" ++ plus (set .any) ++ literal "\x7d")) ++ gaps ++ unit) |||
    oneOf (["all", "auto", "none"].map caseless)

def year : Pattern :=
  ((literal "19" ++ span '7' '9') ||| (span '2' '9' ++ digit ++ digit)) ++ digit

def month : Pattern :=
  (char '0' ++ span '1' '9') ||| (char '1' ++ span '0' '2')

def day : Pattern :=
  (char '0' ++ span '1' '9') ||| (span '1' '2' ++ span '0' '9') ||| (char '3' ++ span '0' '1')

def hour : Pattern :=
  (span '0' '1' ++ digit) ||| (char '2' ++ span '0' '4')

def sixty : Pattern :=
  span '0' '5' ++ span '0' '9'

def fraction : Pattern :=
  char '.' ++ between digit 1 9

def localDate : Pattern :=
  year ++ optional (char '-' ++ month ++ optional (char '-' ++ day ++
    optional (char ' ' ++ hour ++ char ':' ++ sixty ++ optional (char ':' ++ sixty) ++
      optional fraction)))

def zonedDate : Pattern :=
  year ++ char '-' ++ month ++ char '-' ++ day ++ (char 't' ||| char 'T') ++
    hour ++ char ':' ++ sixty ++ char ':' ++ sixty ++ optional fraction ++
    ((char 'z' ||| char 'Z') |||
      ((char '+' ||| char '-') ++ hour ++ optional (char ':') ++ sixty))

end

def isDate (cs : List Char) : Bool :=
  calendar.whole cs || localDate.whole cs || zonedDate.whole cs

def isInterval (cs : List Char) : Bool :=
  interval.whole cs

end ChartConfig.Value
