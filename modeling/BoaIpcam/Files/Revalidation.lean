import BoaIpcam.Files.Dates

/-!
# Files that a client has

A client that keeps a file sends the date of the file back. The server then sends the file again
exactly when it has become newer, whichever of the three formats of HTTP the client uses; only the
format with two digits for the year is read as a year before 2000.
-/
namespace BoaIpcam.Dates

open Calendar

/-! ## The formats -/

/-- The name of a month. -/
def monthText (mon : ℕ) : List UInt8 := (monthTab.drop (4 * mon)).take 3

/-- `Sun, 06 Nov 1994 08:49:37 GMT`. -/
def rfc1123 (weekday : List UInt8) (t : Tm) : List UInt8 :=
  weekday ++ 32 :: (twoDigits t.mday ++ 32 :: (monthText t.mon ++ 32 :: (decimal t.year ++ 32 ::
    (clockText t ++ ascii " GMT"))))

/-- `Sunday, 06-Nov-94 08:49:37 GMT`. -/
def rfc1036 (weekday : List UInt8) (t : Tm) : List UInt8 :=
  weekday ++ 32 :: (twoDigits t.mday ++ 45 :: (monthText t.mon ++ 45 ::
    (twoDigits (t.year % 100) ++ 32 :: (clockText t ++ ascii " GMT"))))

/-- `Sun Nov  6 08:49:37 1994`. -/
def asctime (weekday : List UInt8) (t : Tm) : List UInt8 :=
  weekday ++ 32 :: (monthText t.mon ++ 32 ::
    ((if t.mday < 10 then [32, UInt8.ofNat (48 + t.mday)] else twoDigits t.mday) ++ 32 ::
      (clockText t ++ 32 :: decimal t.year)))

/-! ## Fields -/

/-- The fields of a time are in their ranges. -/
structure Tm.Ranged (t : Tm) : Prop where
  /-- There are twelve months. -/
  mon : t.mon < 12
  /-- The day has two digits. -/
  mday : t.mday < 100
  /-- The hour has two digits. -/
  hour : t.hour < 100
  /-- The minute has two digits. -/
  min : t.min < 100
  /-- The second has two digits. -/
  sec : t.sec < 100

/-- `gmtime` gives fields in their ranges. -/
theorem ranged_gmtime (time : ℕ) : (gmtime time).Ranged := by
  have first : epoch.Valid := ⟨by decide, by decide, by decide⟩
  have valid := dateAfter_valid first (time / 86400)
  have last := valid.last.trans (Date.daysIn_le _ _)
  refine ⟨valid.month, ?_, ?_, ?_, ?_⟩
  · exact Nat.lt_of_le_of_lt last (by decide)
  · change time % 86400 / 3600 < 100
    omega
  · change time % 86400 / 60 % 60 < 100
    omega
  · change time % 86400 % 60 < 100
    omega

/-- Two digits are digits and have the value of the number. -/
theorem twoDigits_spec : ∀ a < 100, (∀ c ∈ twoDigits a, isDigit c = true) ∧
    digits 0 (twoDigits a) = a := by
  -- Told by `List.all`, the table is decided without going through all bytes.
  have table : ∀ a < 100, (twoDigits a).all isDigit = true ∧ digits 0 (twoDigits a) = a := by
    decide
  intro a small
  have entry := table a small
  exact ⟨List.all_eq_true.mp entry.1, entry.2⟩

/-- The name of a month has three letters. -/
theorem length_monthText : ∀ mon < 12, (monthText mon).length = 3 := by decide

/-- The name of a month has no white space. -/
theorem solid_monthText : ∀ mon < 12, Solid (monthText mon) := by decide

/-- The name of a month is known. -/
theorem month2int_monthText : ∀ mon < 12, month2int (monthText mon) = mon := by decide

/-- An entry of `month_tab` is a name and a blank. -/
theorem monthTab_entry : ∀ mon < 12,
    (monthTab.drop (4 * mon)).take 4 = monthText mon ++ [32] := by decide

/-- No byte of the name of a month belongs to a number. -/
theorem monthText_letters {mon : ℕ} (known : mon < 12) {c : UInt8} (member : c ∈ monthText mon) :
    isDigit c = false ∧ c ≠ 43 ∧ c ≠ 45 := by
  have table : ∀ mon < 12,
      (monthText mon).all (fun c => !isDigit c && c != 43 && c != 45) = true := by
    decide
  have letters := table mon known
  rw [List.all_eq_true] at letters
  have letter := letters c member
  simp only [Bool.and_eq_true, Bool.not_eq_true', bne_iff_ne] at letter
  exact ⟨letter.1.1, letter.1.2, letter.2⟩

/-- A blank in front of a number is skipped. -/
theorem scanInt_blank (text : List UInt8) : scanInt (32 :: text) = scanInt text := rfl

/-- A blank in front of a name is skipped. -/
theorem scanName_blank (size : ℕ) (text : List UInt8) :
    scanName size (32 :: text) = scanName size text := rfl

/-- A character that is no digit ends a number. -/
theorem noDigit_cons {c : UInt8} (other : isDigit c = false) (text : List UInt8) :
    NoDigit (c :: text) := by
  intro d first
  cases first
  exact other

/-- A blank ends a number. -/
theorem noDigit_blank (text : List UInt8) : NoDigit (32 :: text) := noDigit_cons rfl text

/-- A hyphen ends a number. -/
theorem noDigit_hyphen (text : List UInt8) : NoDigit (45 :: text) := noDigit_cons rfl text

/-- A colon ends a number. -/
theorem noDigit_colon (text : List UInt8) : NoDigit (58 :: text) := noDigit_cons rfl text

/-- `%d` reads two digits. -/
theorem scanInt_twoDigits {a : ℕ} (small : a < 100) {rest : List UInt8} (ends : NoDigit rest) :
    scanInt (twoDigits a ++ rest) = some ((a : ℤ), rest) := by
  obtain ⟨numeric, value⟩ := twoDigits_spec a small
  have int : IsInt (a : ℤ) := by
    unfold IsInt
    omega
  rw [scanInt_number numeric (List.cons_ne_nil _ _) ends, value, clampInt_of_isInt int]

/-- `%d` reads a year. -/
theorem scanInt_decimal {a : ℕ} (int : IsInt (a : ℤ)) {rest : List UInt8} (ends : NoDigit rest) :
    scanInt (decimal a ++ rest) = some ((a : ℤ), rest) := by
  rw [scanInt_number (fun c => isDigit_of_mem_decimal) (decimal_ne_nil a) ends, digits_decimal,
    clampInt_of_isInt int]

/-- A character that is no digit, nor a sign or white space, starts no number. -/
theorem scanInt_letter {c : UInt8} {text : List UInt8} (solid : isSpace c = false)
    (letter : isDigit c = false) (plus : c ≠ 43) (minus : c ≠ 45) : scanInt (c :: text) = none := by
  have body : (c :: text).dropWhile isSpace = c :: text :=
    List.dropWhile_cons_of_neg (by simp [solid])
  have nothing : scanSigned (c :: text) = none := by
    unfold scanSigned
    split
    · simp_all
    · simp_all
    · rw [List.takeWhile_cons_of_neg (by simp [letter])]
      rfl
  rw [scanInt, scanNumber, body, nothing]
  rfl

/-- `%3s` reads a name of three letters. -/
theorem scanName_three {name rest : List UInt8} (size : name.length = 3) (solid : Solid name) :
    scanName 3 (name ++ rest) = some (name, rest) := by
  obtain ⟨c, tail, rfl⟩ := List.exists_cons_of_length_pos (show 0 < name.length by omega)
  have first : isSpace c = false := solid c List.mem_cons_self
  have body : ((c :: tail) ++ rest).dropWhile isSpace = (c :: tail) ++ rest := by
    rw [List.cons_append, List.dropWhile_cons_of_neg (by simp [first])]
  have taken : ((c :: tail) ++ rest).take 3 = c :: tail := by
    rw [← size, List.take_left]
  have whole : (c :: tail).takeWhile (fun c => !isSpace c) = c :: tail :=
    List.takeWhile_eq_self_iff.mpr fun d member => by simp [solid d member]
  unfold scanName
  simp only [body, taken, whole, List.cons_ne_nil, if_false, List.drop_left]

/-- A blank in front of the time of the day is skipped. -/
theorem scanClock_blank (text : List UInt8) : scanClock (32 :: text) = scanClock text := rfl

/-- `%d:%d:%d` reads the time of the day. -/
theorem scanClock_clockText {t : Tm} (ranged : t.Ranged) {rest : List UInt8} (ends : NoDigit rest) :
    scanClock (clockText t ++ rest) = some (((t.hour : ℤ), (t.min : ℤ), (t.sec : ℤ)), rest) := by
  have text : clockText t ++ rest = twoDigits t.hour ++ 58 :: (twoDigits t.min ++ 58 ::
      (twoDigits t.sec ++ rest)) := by
    simp only [clockText, List.append_assoc, List.cons_append]
  have mark : ∀ text : List UInt8, scanChar 58 (58 :: text) = some text := fun _ => rfl
  rw [text, scanClock, scanInt_twoDigits ranged.hour (noDigit_colon _)]
  simp only [Option.bind_eq_bind, Option.bind_some, mark,
    scanInt_twoDigits ranged.min (noDigit_colon _), scanInt_twoDigits ranged.sec ends]

/-- What is read of a date. -/
def sinceOf (t : Tm) : Since :=
  ⟨t.mday, monthText t.mon, t.year, t.hour, t.min, t.sec⟩

/-- The text of a weekday ends at the first blank. -/
theorem dropWhile_weekday {weekday : List UInt8} (plain : 32 ∉ weekday) (rest : List UInt8) :
    (weekday ++ 32 :: rest).dropWhile (· ≠ 32) = 32 :: rest := by
  rw [List.dropWhile_append_of_pos]
  · rfl
  · intro c member
    have other : c ≠ 32 := fun same => plain (same ▸ member)
    exact decide_eq_true other

/-! ## Reading what was written -/

/-- The format of RFC 1123 is read. -/
theorem scanRfc1123_text {t : Tm} (ranged : t.Ranged) (int : IsInt (t.year : ℤ)) :
    scanRfc1123 3 (32 :: (twoDigits t.mday ++ 32 :: (monthText t.mon ++ 32 :: (decimal t.year ++
      32 :: (clockText t ++ ascii " GMT"))))) = some (sinceOf t) := by
  have size := length_monthText t.mon ranged.mon
  have solid := solid_monthText t.mon ranged.mon
  have gmt : NoDigit (ascii " GMT") := noDigit_blank _
  rw [scanRfc1123, scanInt_blank, scanInt_twoDigits ranged.mday (noDigit_blank _)]
  simp only [Option.bind_eq_bind, Option.bind_some, scanName_blank, scanName_three size solid,
    scanInt_blank, scanInt_decimal int (noDigit_blank _)]
  rw [scanClock_blank, scanClock_clockText ranged gmt]
  rfl

/-- A hyphen and a month without its last letter are taken for a name. -/
theorem scanName_hyphen {mon : ℕ} (known : mon < 12) (rest : List UInt8) :
    scanName 3 (45 :: (monthText mon ++ rest)) =
      some (45 :: (monthText mon).take 2, (monthText mon).drop 2 ++ rest) := by
  have size := length_monthText mon known
  have solid := solid_monthText mon known
  have name : Solid (45 :: (monthText mon).take 2) := by
    intro c member
    rcases List.mem_cons.mp member with rfl | inside
    · rfl
    · exact solid c (List.mem_of_mem_take inside)
  have length : (45 :: (monthText mon).take 2).length = 3 := by
    rw [List.length_cons, List.length_take, size]
    rfl
  have parts : 45 :: (monthText mon ++ rest) =
      (45 :: (monthText mon).take 2) ++ ((monthText mon).drop 2 ++ rest) := by
    rw [List.cons_append, ← List.append_assoc, List.take_append_drop]
  rw [parts, scanName_three length name]

/-- No number starts with a letter of a month. -/
theorem scanInt_month {mon : ℕ} (known : mon < 12) {n : ℕ} (inside : n < 3) (rest : List UInt8) :
    scanInt ((monthText mon).drop n ++ rest) = none := by
  have size := length_monthText mon known
  obtain ⟨c, tail, split⟩ := List.exists_cons_of_length_pos (l := (monthText mon).drop n) (by
    rw [List.length_drop]
    omega)
  have member : c ∈ monthText mon := by
    apply List.mem_of_mem_drop (i := n)
    rw [split]
    exact List.mem_cons_self
  obtain ⟨letter, plus, minus⟩ := monthText_letters known member
  rw [split]
  exact scanInt_letter (solid_monthText mon known c member) letter plus minus

/-- The format of RFC 1036 is not the one of RFC 1123. -/
theorem scanRfc1123_hyphen {t : Tm} (ranged : t.Ranged) (rest : List UInt8) :
    scanRfc1123 3 (32 :: (twoDigits t.mday ++ 45 :: (monthText t.mon ++ rest))) = none := by
  rw [scanRfc1123, scanInt_blank, scanInt_twoDigits ranged.mday (noDigit_hyphen _)]
  simp only [Option.bind_eq_bind, Option.bind_some, scanName_hyphen ranged.mon,
    scanInt_month ranged.mon (show 2 < 3 by decide), Option.bind_none]

/-- The format of RFC 1036 is read. -/
theorem scanRfc1036_text {t : Tm} (ranged : t.Ranged) :
    scanRfc1036 (32 :: (twoDigits t.mday ++ 45 :: (monthText t.mon ++ 45 ::
      (twoDigits (t.year % 100) ++ 32 :: (clockText t ++ ascii " GMT"))))) =
        some { sinceOf t with year := (t.year % 100 : ℕ) + 1900 } := by
  have size := length_monthText t.mon ranged.mon
  have solid := solid_monthText t.mon ranged.mon
  have gmt : NoDigit (ascii " GMT") := noDigit_blank _
  have mark : ∀ text : List UInt8, scanChar 45 (45 :: text) = some text := fun _ => rfl
  have century : t.year % 100 < 100 := Nat.mod_lt _ (by decide)
  rw [scanRfc1036, scanInt_blank, scanInt_twoDigits ranged.mday (noDigit_hyphen _)]
  simp only [Option.bind_eq_bind, Option.bind_some, mark, scanName_three size solid,
    scanInt_twoDigits century (noDigit_blank _)]
  rw [scanClock_blank, scanClock_clockText ranged gmt]
  rfl

/-- A date that begins with a month has none of the first two formats. -/
theorem scan_month {mon : ℕ} (known : mon < 12) (rest : List UInt8) :
    scanRfc1123 3 (32 :: (monthText mon ++ rest)) = none ∧
      scanRfc1036 (32 :: (monthText mon ++ rest)) = none := by
  have nothing : scanInt (32 :: (monthText mon ++ rest)) = none := by
    have first := scanInt_month known (show 0 < 3 by decide) rest
    rw [List.drop_zero] at first
    exact first
  rw [scanRfc1123, scanRfc1036, nothing]
  exact ⟨rfl, rfl⟩

/-- The format of `asctime` is read. -/
theorem scanAsctime_text {t : Tm} (ranged : t.Ranged) (int : IsInt (t.year : ℤ)) :
    scanAsctime (32 :: (monthText t.mon ++ 32 ::
      ((if t.mday < 10 then [32, UInt8.ofNat (48 + t.mday)] else twoDigits t.mday) ++ 32 ::
        (clockText t ++ 32 :: decimal t.year)))) = some (sinceOf t) := by
  have size := length_monthText t.mon ranged.mon
  have solid := solid_monthText t.mon ranged.mon
  have day : ∀ rest : List UInt8, NoDigit rest →
      scanInt ((if t.mday < 10 then [32, UInt8.ofNat (48 + t.mday)] else twoDigits t.mday) ++ rest) =
        some ((t.mday : ℤ), rest) := by
    intro rest ends
    split
    · rename_i single
      have one : ∀ a < 10, isDigit (UInt8.ofNat (48 + a)) = true ∧
          digits 0 [UInt8.ofNat (48 + a)] = a := by decide
      obtain ⟨digit, value⟩ := one t.mday single
      have numeric : ∀ c ∈ [UInt8.ofNat (48 + t.mday)], isDigit c = true := by
        intro c member
        rw [List.mem_singleton.mp member]
        exact digit
      have small : IsInt (t.mday : ℤ) := by
        unfold IsInt
        omega
      have read := scanInt_number numeric (List.cons_ne_nil _ _) ends
      rw [value, clampInt_of_isInt small] at read
      exact read
    · exact scanInt_twoDigits ranged.mday ends
  have year : scanInt (decimal t.year) = some ((t.year : ℤ), []) := by
    have ends : NoDigit [] := fun c first => nomatch first
    have read := scanInt_decimal int ends
    rw [List.append_nil] at read
    exact read
  rw [scanAsctime, scanName_blank, scanName_three size solid]
  simp only [Option.bind_eq_bind, Option.bind_some, scanInt_blank, day _ (noDigit_blank _)]
  rw [scanClock_blank, scanClock_clockText ranged (noDigit_blank _)]
  simp only [Option.bind_some, scanInt_blank, year]
  rfl

/-! ## Comparing -/

/-- The first fields that differ decide as the order of the lists does. -/
theorem newer_eq {file since : List ℕ} (same : file.length = since.length) :
    newer file (since.map (↑)) = if since < file then 1 else 0 := by
  induction file generalizing since with
  | nil =>
    rw [List.length_eq_zero_iff.mp same.symm]
    rfl
  | cons a file ih =>
    cases since with
    | nil => exact absurd same (Nat.succ_ne_zero _)
    | cons b since =>
      rw [List.map_cons, newer, ih (Nat.succ.inj same)]
      simp only [List.cons_lt_cons_iff]
      rcases Nat.lt_trichotomy a b with less | rfl | more
      · have apart : (a : ℤ) - b ≠ 0 := by omega
        have below : ¬(a : ℤ) - b > 0 := by omega
        have no : ¬(b < a ∨ b = a ∧ since < file) := by omega
        rw [if_pos apart, if_neg below, if_neg no]
      · have equal : ¬(a : ℤ) - a ≠ 0 := by omega
        rw [if_neg equal]
        simp
      · have apart : (a : ℤ) - b ≠ 0 := by omega
        have above : (a : ℤ) - b > 0 := by omega
        rw [if_pos apart, if_pos above, if_pos (.inl more)]

/-- A file is compared with a time that was read. -/
theorem modifiedSince_of_scan {weekday rest : List UInt8} (plain : 32 ∉ weekday) {since : Since}
    (read : scanSince (32 :: rest) (weekday ++ 32 :: rest) = some since) (mtime : ℕ) :
    modifiedSince mtime (weekday ++ 32 :: rest) = newer (gmtime mtime).fields
      [since.year, month2int since.monthname, since.day, since.hour, since.minute,
        since.second] := by
  unfold modifiedSince
  rw [dropWhile_weekday plain]
  dsimp only
  rw [if_neg (List.cons_ne_nil _ _), read]

/-- A file is compared with the time of a date. -/
theorem newer_sinceOf (mtime time : ℕ) :
    newer (gmtime mtime).fields [((sinceOf (gmtime time)).year : ℤ),
        month2int (sinceOf (gmtime time)).monthname, (sinceOf (gmtime time)).day,
        (sinceOf (gmtime time)).hour, (sinceOf (gmtime time)).minute,
        (sinceOf (gmtime time)).second] =
      if time < mtime then 1 else 0 := by
  have month := month2int_monthText _ (ranged_gmtime time).mon
  have fields : [((sinceOf (gmtime time)).year : ℤ), month2int (sinceOf (gmtime time)).monthname,
      (sinceOf (gmtime time)).day, (sinceOf (gmtime time)).hour, (sinceOf (gmtime time)).minute,
      (sinceOf (gmtime time)).second] = (gmtime time).fields.map (↑) := by
    unfold sinceOf
    dsimp only
    rw [month]
    rfl
  have same : (gmtime mtime).fields.length = (gmtime time).fields.length := rfl
  rw [fields, newer_eq same, fields_gmtime, fields_gmtime]
  simp only [(fieldsAt_strictMono epoch).lt_iff_lt]

/-! ## Conditional requests -/

variable {weekday : List UInt8} {time : ℕ}

/-- A date in the format of RFC 1123 says the time it was made of. -/
theorem modifiedSince_rfc1123 (plain : 32 ∉ weekday) (int : IsInt ((gmtime time).year : ℤ))
    (mtime : ℕ) :
    modifiedSince mtime (rfc1123 weekday (gmtime time)) = if time < mtime then 1 else 0 := by
  refine (@modifiedSince_of_scan weekday _ plain (sinceOf (gmtime time)) ?_ mtime).trans
    (newer_sinceOf mtime time)
  rw [scanSince, scanRfc1123_text (ranged_gmtime time) int]
  rfl

/-- A date in the format of `asctime` says the time it was made of. -/
theorem modifiedSince_asctime (plain : 32 ∉ weekday) (int : IsInt ((gmtime time).year : ℤ))
    (mtime : ℕ) :
    modifiedSince mtime (asctime weekday (gmtime time)) = if time < mtime then 1 else 0 := by
  refine (@modifiedSince_of_scan weekday _ plain (sinceOf (gmtime time)) ?_ mtime).trans
    (newer_sinceOf mtime time)
  rw [scanSince, (scan_month (ranged_gmtime time).mon _).1,
    (scan_month (ranged_gmtime time).mon _).2, scanAsctime_text (ranged_gmtime time) int]
  rfl

/-- A date in the format of RFC 1036 says a time before 2000. -/
theorem scanSince_rfc1036 (time : ℕ) (whole : List UInt8) :
    scanSince (32 :: (twoDigits (gmtime time).mday ++ 45 :: (monthText (gmtime time).mon ++ 45 ::
      (twoDigits ((gmtime time).year % 100) ++ 32 ::
        (clockText (gmtime time) ++ ascii " GMT"))))) whole =
      some { sinceOf (gmtime time) with year := ((gmtime time).year % 100 : ℕ) + 1900 } := by
  rw [scanSince, scanRfc1123_hyphen (ranged_gmtime time), scanRfc1036_text (ranged_gmtime time)]
  rfl

/-- A date before 2000 in the format of RFC 1036 says the time it was made of. -/
theorem modifiedSince_rfc1036 (plain : 32 ∉ weekday) (past : (gmtime time).year < 2000)
    (mtime : ℕ) :
    modifiedSince mtime (rfc1036 weekday (gmtime time)) = if time < mtime then 1 else 0 := by
  have year : (((gmtime time).year % 100 : ℕ) : ℤ) + 1900 = (gmtime time).year := by
    have first : 1970 ≤ (gmtime time).year := year_le_dateAfter epoch _
    omega
  have scanned := scanSince_rfc1036 time (rfc1036 weekday (gmtime time))
  rw [year] at scanned
  exact (modifiedSince_of_scan plain scanned mtime).trans (newer_sinceOf mtime time)

/-- For every date from 2000 on in the format of RFC 1036, a file of these years has become newer. -/
theorem modifiedSince_rfc1036_late (plain : 32 ∉ weekday) {mtime : ℕ}
    (recent : 2000 ≤ (gmtime mtime).year) :
    modifiedSince mtime (rfc1036 weekday (gmtime time)) = 1 := by
  have scanned := scanSince_rfc1036 time (rfc1036 weekday (gmtime time))
  have read := modifiedSince_of_scan plain scanned mtime
  have above : ((gmtime mtime).year : ℤ) - (((gmtime time).year % 100 : ℕ) + 1900) > 0 := by omega
  have apart : ((gmtime mtime).year : ℤ) - (((gmtime time).year % 100 : ℕ) + 1900) ≠ 0 := by omega
  rw [Tm.fields, newer] at read
  dsimp only at read
  rw [if_pos apart, if_pos above] at read
  exact read

/-- The dates that say a time: in one of the three formats, with any name of the weekday, and in that
of RFC 1036 before 2000. -/
def Says (date : List UInt8) (time : ℕ) : Prop :=
  ∃ weekday, weekday ≠ [] ∧ Solid weekday ∧ (date = rfc1123 weekday (gmtime time) ∨
    date = asctime weekday (gmtime time) ∨
    date = rfc1036 weekday (gmtime time) ∧ (gmtime time).year < 2000)

/-- A text without white space has no blank. -/
theorem no_blank (solid : Solid weekday) : 32 ∉ weekday :=
  fun member => Bool.false_ne_true (solid 32 member).symm

/-- What the server writes for a file says the time of the file, or the current time. -/
theorem says_rfc822TimeBuf (currentTime s : ℕ) :
    Says (rfc822TimeBuf currentTime s) (if s = 0 then currentTime else s) := by
  have names : ∀ wday < 7, (dayTab.drop (wday * 4)).take 4 ≠ [] ∧
      Solid ((dayTab.drop (wday * 4)).take 4) := by decide
  have time : (if s = 0 then gmtime currentTime else gmtime s) =
      gmtime (if s = 0 then currentTime else s) := by
    split
    · rfl
    · rfl
  generalize (if s = 0 then currentTime else s) = moment at time ⊢
  have month := monthTab_entry _ (ranged_gmtime moment).mon
  obtain ⟨name, solid⟩ := names (gmtime moment).wday (Nat.mod_lt _ (by decide))
  refine ⟨_, name, solid, .inl ?_⟩
  unfold rfc822TimeBuf rfc1123
  dsimp only
  rw [time, month, List.append_assoc]
  rfl

/-- A file is compared with the time that a date says. -/
theorem modifiedSince_says {date : List UInt8} (told : Says date time)
    (int : IsInt ((gmtime time).year : ℤ)) (mtime : ℕ) :
    modifiedSince mtime date = if time < mtime then 1 else 0 := by
  obtain ⟨weekday, -, solid, rfl | rfl | ⟨rfl, past⟩⟩ := told
  · exact modifiedSince_rfc1123 (no_blank solid) int mtime
  · exact modifiedSince_asctime (no_blank solid) int mtime
  · exact modifiedSince_rfc1036 (no_blank solid) past mtime

/-- The value of the line is the date. -/
theorem processOptionLine_since {kaMax : ℕ} {f : Intake.Fields} (first : f.ifModifiedSince = none)
    (name : weekday ≠ []) (solid : Solid weekday) (rest : List UInt8) :
    Intake.processOptionLine kaMax (ascii "If-Modified-Since: " ++ (weekday ++ rest)) f =
      some { f with ifModifiedSince := some (weekday ++ rest) } := by
  obtain ⟨c, tail, rfl⟩ := List.exists_cons_of_ne_nil name
  have value : (32 :: (c :: tail ++ rest)).dropWhile (fun c => c = 32 ∨ c = 9) =
      c :: tail ++ rest := by
    have letter := solid c List.mem_cons_self
    have blank : c ≠ 32 ∧ c ≠ 9 := by
      constructor <;> rintro rfl <;> cases letter
    rw [List.dropWhile_cons_of_pos (by decide), List.cons_append, List.dropWhile_cons_of_neg]
    simpa using blank
  have cut : Intake.cutLine (ascii "If-Modified-Since: " ++ (c :: tail ++ rest)) =
      some (ascii "IF_MODIFIED_SINCE", c :: tail ++ rest) := by
    have parts : splitAtByte 58 (ascii "If-Modified-Since: " ++ (c :: tail ++ rest)) =
        some (ascii "If-Modified-Since", 32 :: (c :: tail ++ rest)) := rfl
    rw [Intake.cutLine, parts, Option.map_some, value]
    rfl
  rw [Intake.processOptionLine, cut, Option.bind_some, Intake.optionCase, if_pos ⟨rfl, first⟩]

/-- A date in one of the formats begins with the name of a weekday. -/
theorem Says.split {date : List UInt8} (told : Says date time) :
    ∃ weekday rest, weekday ≠ [] ∧ Solid weekday ∧ date = weekday ++ rest := by
  obtain ⟨weekday, name, solid, rfl | rfl | ⟨rfl, -⟩⟩ := told
  · exact ⟨weekday, _, name, solid, rfl⟩
  · exact ⟨weekday, _, name, solid, rfl⟩
  · exact ⟨weekday, _, name, solid, rfl⟩

/-- Only a file that is opened itself can be answered with 304. -/
theorem initGet_notModified_iff {found : Found} {since : Option (List UInt8)} {dynamic : Bool} :
    initGet found since dynamic = .notModified ↔
      ∃ mtime, found = .file mtime ∧ notModified since dynamic mtime = true := by
  cases found with
  | file mtime =>
    rw [initGet]
    by_cases same : notModified since dynamic mtime = true
    · simp [same]
    · simp [same]
  | compressed => simp [initGet]
  | missing => simp [initGet]

/-- The time in an answer is that of the file, or zero for a file that `gunzip` expands. -/
theorem initGet_ok {found : Found} {since : Option (List UInt8)} {dynamic : Bool} {time : ℕ}
    (sent : initGet found since dynamic = .ok time) :
    found = .file time ∨ found = .compressed ∧ time = 0 := by
  cases found with
  | file mtime =>
    rw [initGet] at sent
    split at sent <;> cases sent
    exact .inl rfl
  | compressed =>
    cases sent
    exact .inr ⟨rfl, rfl⟩
  | missing => cases sent

/-- A client that sends a date back is told that the file is the same exactly when `init_get` opens the
file itself, it has not become newer since the time the date says, and the page is not made. The date
of an answer says the time of the file, or the current time for a file of the time zero and for one
that `gunzip` expands. With two digits for a year from 2000 on, no file of these years is the same. -/
theorem revalidated {kaMax : ℕ} {f : Intake.Fields} (first : f.ifModifiedSince = none) {time : ℕ}
    (int : IsInt ((gmtime time).year : ℤ)) (dynamic : Bool) (found : Found) :
    (∀ date, Says date time → ∃ next,
      Intake.processOptionLine kaMax (ascii "If-Modified-Since: " ++ date) f = some next ∧
      (initGet found next.ifModifiedSince dynamic = .notModified ↔
        ∃ mtime, found = .file mtime ∧ dynamic = false ∧ mtime ≤ time)) ∧
    (∀ since lastModified, initGet found since dynamic = .ok lastModified →
      (found = .file lastModified ∨ found = .compressed ∧ lastModified = 0) ∧
        ∀ currentTime, Says (rfc822TimeBuf currentTime lastModified)
          (if lastModified = 0 then currentTime else lastModified)) ∧
    (∀ mtime, found = .file mtime → 2000 ≤ (gmtime mtime).year → ∀ weekday, Solid weekday →
      initGet found (some (rfc1036 weekday (gmtime time))) dynamic = .ok mtime) := by
  refine ⟨?_, ?_, ?_⟩
  · intro date told
    have compare := fun mtime => modifiedSince_says told int mtime
    obtain ⟨weekday, rest, name, solid, rfl⟩ := told.split
    refine ⟨_, processOptionLine_since first name solid rest, ?_⟩
    rw [initGet_notModified_iff]
    refine exists_congr fun mtime => and_congr_right fun _ => ?_
    have compared := compare mtime
    unfold notModified
    rw [Option.any_some, compared]
    by_cases newer : time < mtime
    · rw [if_pos newer]
      simp [newer]
    · rw [if_neg newer]
      simp [Nat.le_of_not_lt newer]
  · intro since lastModified sent
    exact ⟨initGet_ok sent, fun currentTime => says_rfc822TimeBuf currentTime lastModified⟩
  · rintro mtime rfl recent weekday solid
    have different : notModified (some (rfc1036 weekday (gmtime time))) dynamic mtime = false := by
      unfold notModified
      rw [Option.any_some, modifiedSince_rfc1036_late (no_blank solid) recent]
      simp
    rw [initGet, different]
    rfl

/-- A client that was given the page twenty days after the first of January 1970 and asks again. -/
theorem revalidated_twenty_days : ∃ next,
    Intake.processOptionLine 5 (ascii "If-Modified-Since: Wed, 21 Jan 1970 00:00:00 GMT") .new =
        some next ∧
      initGet (.file 1728000) next.ifModifiedSince false = .notModified := by
  have year : IsInt ((gmtime 1728000).year : ℤ) := ⟨by decide, by decide⟩
  have date : rfc822TimeBuf 0 1728000 = ascii "Wed, 21 Jan 1970 00:00:00 GMT" := by decide
  have parts := @revalidated 5 .new rfl 1728000 year false (.file 1728000)
  have told : Says (rfc822TimeBuf 0 1728000) 1728000 := (parts.2.1 none 1728000 rfl).2 0
  rw [date] at told
  obtain ⟨next, read, same⟩ := parts.1 _ told
  exact ⟨next, read, same.mpr ⟨1728000, rfl, rfl, Nat.le_refl _⟩⟩

end BoaIpcam.Dates
