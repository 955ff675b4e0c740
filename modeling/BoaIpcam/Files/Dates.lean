import BoaIpcam.Intake.Options
import BoaIpcam.Lib.Calendar

/-!
# Dates of files

`rfc822_time_buf` of `util.c` writes the date of a file into the answer, and `modified_since` compares
the date that a client sends back, in one of four formats, with that of the file. Times are seconds
from the start of 1970; an overflow of `int` is not modelled.
-/
namespace BoaIpcam.Dates

open Calendar

/-! ## Times -/

/-- `struct tm`, but with the year itself. -/
structure Tm where
  /-- The year. -/
  year : ℕ
  /-- The month, from zero. -/
  mon : ℕ
  /-- The day of the month. -/
  mday : ℕ
  /-- The hour. -/
  hour : ℕ
  /-- The minute. -/
  min : ℕ
  /-- The second. -/
  sec : ℕ
  /-- The day of the week, from Sunday. -/
  wday : ℕ
deriving DecidableEq, Repr

/-- The first of January 1970, which was a Thursday. -/
def epoch : Date := ⟨1970, 0, 1⟩

/-- `gmtime`. -/
def gmtime (time : ℕ) : Tm :=
  let date := dateAfter epoch (time / 86400)
  let second := time % 86400
  ⟨date.year, date.month, date.day, second / 3600, second / 60 % 60, second % 60,
    (4 + time / 86400) % 7⟩

/-- The fields from the year down to the second. -/
def Tm.fields (t : Tm) : List ℕ := [t.year, t.mon, t.mday, t.hour, t.min, t.sec]

/-- The fields of a time. -/
theorem fields_gmtime (time : ℕ) : (gmtime time).fields = fieldsAt epoch time := rfl

/-! ## Writing -/

/-- `month_tab`. -/
def monthTab : List UInt8 := ascii "Jan Feb Mar Apr May Jun Jul Aug Sep Oct Nov Dec "

/-- `day_tab`. -/
def dayTab : List UInt8 := ascii "Sun,Mon,Tue,Wed,Thu,Fri,Sat,"

/-- Two digits of a number below 100. -/
def twoDigits (a : ℕ) : List UInt8 := [UInt8.ofNat (48 + a / 10), UInt8.ofNat (48 + a % 10)]

/-- Hour, minute and second. -/
def clockText (t : Tm) : List UInt8 :=
  twoDigits t.hour ++ 58 :: (twoDigits t.min ++ 58 :: twoDigits t.sec)

/-- `rfc822_time_buf`, which writes from the end to the front. The time zero stands for the current
time. -/
def rfc822TimeBuf (currentTime s : ℕ) : List UInt8 :=
  let t := if s = 0 then gmtime currentTime else gmtime s
  (dayTab.drop (t.wday * 4)).take 4 ++ 32 :: (twoDigits t.mday ++ 32 ::
    ((monthTab.drop (4 * t.mon)).take 4 ++ (decimal t.year ++ 32 ::
      (clockText t ++ ascii " GMT"))))

example : rfc822TimeBuf 0 784111 = ascii "Sat, 10 Jan 1970 01:48:31 GMT" := by decide

/-! ## Reading -/

/-- `month2int`. -/
def month2int : List UInt8 → ℤ
  | 65 :: rest => if rest.head? = some 112 then 3 else 7
  | 68 :: _ => 11
  | 70 :: _ => 1
  | 74 :: rest => if rest.head? = some 97 then 0 else if rest[1]? = some 110 then 5 else 6
  | 77 :: rest => if rest[1]? = some 114 then 2 else 4
  | 78 :: _ => 10
  | 79 :: _ => 9
  | 83 :: _ => 8
  | _ => -1

/-- `%3s` of `sscanf`, with any number for the three. -/
def scanName (size : ℕ) (text : List UInt8) : Option (List UInt8 × List UInt8) :=
  let body := text.dropWhile isSpace
  let name := (body.take size).takeWhile fun c => !isSpace c
  if name = [] then none else some (name, body.drop name.length)

/-- What `modified_since` reads. -/
structure Since where
  /-- The day of the month. -/
  day : ℤ
  /-- The name of the month. -/
  monthname : List UInt8
  /-- The year. -/
  year : ℤ
  /-- The hour. -/
  hour : ℤ
  /-- The minute. -/
  minute : ℤ
  /-- The second. -/
  second : ℤ
deriving DecidableEq, Repr

/-- `%d:%d:%d`. -/
def scanClock (text : List UInt8) : Option ((ℤ × ℤ × ℤ) × List UInt8) := do
  let (hour, rest) ← scanInt text
  let (minute, rest) ← (scanChar 58 rest).bind scanInt
  let (second, rest) ← (scanChar 58 rest).bind scanInt
  some ((hour, minute, second), rest)

/-- `%d %3s %d %d:%d:%d GMT`, and the same with `%10s`. -/
def scanRfc1123 (size : ℕ) (text : List UInt8) : Option Since := do
  let (day, rest) ← scanInt text
  let (monthname, rest) ← scanName size rest
  let (year, rest) ← scanInt rest
  let (clock, _) ← scanClock rest
  some ⟨day, monthname, year, clock.1, clock.2.1, clock.2.2⟩

/-- `%d-%3s-%d %d:%d:%d GMT`; the year has two digits. -/
def scanRfc1036 (text : List UInt8) : Option Since := do
  let (day, rest) ← scanInt text
  let (monthname, rest) ← (scanChar 45 rest).bind (scanName 3)
  let (year, rest) ← (scanChar 45 rest).bind scanInt
  let (clock, _) ← scanClock rest
  some ⟨day, monthname, year + 1900, clock.1, clock.2.1, clock.2.2⟩

/-- `%3s %d %d:%d:%d %d`. -/
def scanAsctime (text : List UInt8) : Option Since := do
  let (monthname, rest) ← scanName 3 text
  let (day, rest) ← scanInt rest
  let (clock, rest) ← scanClock rest
  let (year, _) ← scanInt rest
  some ⟨day, monthname, year, clock.1, clock.2.1, clock.2.2⟩

/-- The formats in the order in which they are tried. The last one begins with the day. -/
def scanSince (imsInfo ifModifiedSince : List UInt8) : Option Since :=
  (scanRfc1123 3 imsInfo).or ((scanRfc1036 imsInfo).or
    ((scanAsctime imsInfo).or (scanRfc1123 10 ifModifiedSince)))

/-- The comparisons of `modified_since`: the first fields that differ decide. -/
def newer : List ℕ → List ℤ → ℤ
  | a :: file, b :: since => if (a : ℤ) - b ≠ 0 then (if (a : ℤ) - b > 0 then 1 else 0) else newer file since
  | _, _ => 0

/-- `modified_since`. -/
def modifiedSince (mtime : ℕ) (ifModifiedSince : List UInt8) : ℤ :=
  let imsInfo := ifModifiedSince.dropWhile (· ≠ 32)
  if imsInfo = [] then -1
  else
    match scanSince imsInfo ifModifiedSince with
    | none => -1
    | some since =>
      newer (gmtime mtime).fields
        [since.year, month2int since.monthname, since.day, since.hour, since.minute, since.second]

/-- The test of `init_get` that answers `304 Not Modified`; `dynamic` says that the page is made. -/
def notModified (ifModifiedSince : Option (List UInt8)) (dynamic : Bool) (mtime : ℕ) : Bool :=
  ifModifiedSince.any fun since => !dynamic && modifiedSince mtime since = 0

/-- What `open` finds for a request: a file, perhaps the index of a directory, with its time, only the
compressed file, or neither. -/
inductive Found
  | file (mtime : ℕ)
  | compressed
  | missing
deriving DecidableEq, Repr

/-- The first answer of `init_get`: `304 Not Modified`, 200 with a value of `last_modified`, or an
error. -/
inductive FirstAnswer
  | notModified
  | ok (lastModified : ℕ)
  | error
deriving DecidableEq, Repr

/-- `init_get` up to its first answer. A file that `gunzip` is to expand is answered before the test,
and its `last_modified` is not set. -/
def initGet (found : Found) (ifModifiedSince : Option (List UInt8)) (dynamic : Bool) :
    FirstAnswer :=
  match found with
  | .compressed => .ok 0
  | .missing => .error
  | .file mtime => if notModified ifModifiedSince dynamic mtime then .notModified else .ok mtime

example : modifiedSince 784111 (ascii "Sat, 10 Jan 1970 01:48:31 GMT") = 0 ∧
    modifiedSince 784111 (ascii "Saturday, 10-Jan-70 01:48:30 GMT") = 1 ∧
    modifiedSince 784111 (ascii "Sat Jan 10 01:48:32 1970") = 0 ∧
    modifiedSince 784111 (ascii "9 January 1970 01:48:31 GMT") = 1 ∧
    modifiedSince 784111 (ascii "yesterday") = -1 := by decide

end BoaIpcam.Dates
