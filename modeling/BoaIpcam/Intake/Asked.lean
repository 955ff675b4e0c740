import Mathlib.Data.List.DropRight
import BoaIpcam.Intake.Connection

/-!
# What a stream asks for

The lines of a stream are the texts between its newlines, without the carriage returns at their
ends. A request is its first line and those behind it, up to a line of carriage returns only.
`read_header`, which looks at one byte after the other and goes on where it has stopped, finds
the same requests however the stream arrives.
-/
namespace BoaIpcam.Intake

/-! ## Requests -/

/-- The text of a line. It ends with the first NUL. -/
def lineText (line : List UInt8) : List UInt8 :=
  (line.rdropWhile (· = 13)).takeWhile (· ≠ 0)

/-- What the bytes from the start of a request on ask for: nothing yet, or the request is refused with
its first line, or dropped with a later one, or it is complete. -/
inductive Asked
  | unfinished
  | refused
  | dropped (fields : Fields) (rest : List UInt8)
  | complete (head : Head) (rest : List UInt8)
deriving DecidableEq

/-- The request when its first line was accepted, what its lines have set and the front of the next
line are known. -/
def askedLater (kaMax : ℕ) (logline : Logline) : Fields → List UInt8 → List UInt8 → Asked
  | _, _, [] => .unfinished
  | fields, line, c :: rest =>
    if c = 10 then
      if line.all (· = 13) then .complete ⟨logline, fields⟩ rest
      else match processOptionLine kaMax (lineText line) fields with
        | none => .dropped fields rest
        | some fields => askedLater kaMax logline fields [] rest
    else askedLater kaMax logline fields (line ++ [c]) rest

/-- The request when the front of its first line is known. -/
def asked (kaMax : ℕ) : List UInt8 → List UInt8 → Asked
  | _, [] => .unfinished
  | line, c :: rest =>
    if c = 10 then
      let logline := processLogline (lineText line)
      if logline.answer ≠ .accepted then .refused
      else if logline.simple then .complete ⟨logline, .new⟩ rest
      else askedLater kaMax logline .new [] rest
    else asked kaMax (line ++ [c]) rest

/-! ## The state of `read_header` -/

namespace Incoming

/-- The bytes of the line that is read. -/
def soFar (r : Incoming) : List UInt8 := (r.clientStream.take r.parsePos).drop r.headerLine

/-- The bytes that were read and not parsed. -/
def unparsed (r : Incoming) : List UInt8 := r.clientStream.drop r.parsePos

/-- The status that goes with the front of a line. -/
def statusOf (later : Bool) (line : List UInt8) : HeaderStatus :=
  if later ∧ line = [] then .oneLf
  else if later ∧ line.all (· = 13) then .twoCr
  else if line.getLast? = some 13 then .oneCr
  else .readHeader

/-- The state of `read_header` between two bytes. -/
structure Reads (r : Incoming) : Prop where
  /-- The line starts before the next byte. -/
  start : r.headerLine ≤ r.parsePos
  /-- What was read was received. -/
  inside : r.parsePos ≤ r.clientStream.length
  /-- The status says how the bytes end. -/
  status : r.status = statusOf r.logline.isSome r.soFar
  /-- The line ends before the last carriage returns. -/
  ends : r.status = .oneCr →
    r.headerEnd = r.headerLine + (r.soFar.rdropWhile (· = 13)).length
  /-- Nothing is known before the first line has ended. -/
  first : r.logline = none → r.headerLine = 0 ∧ r.fields = .new

/-- What the request asks for when some bytes follow. -/
def resume (kaMax : ℕ) (r : Incoming) (bytes : List UInt8) : Asked :=
  match r.logline with
  | none => asked kaMax r.soFar bytes
  | some logline => askedLater kaMax logline r.fields r.soFar bytes

/-- A new request. -/
theorem reads_new (clientStream : List UInt8) : (new clientStream).Reads where
  start := Nat.le_refl _
  inside := Nat.zero_le _
  status := rfl
  ends := nofun
  first := fun _ => ⟨rfl, rfl⟩

end Incoming

/-! ## One byte -/

/-- A line whose last byte is no carriage return. -/
theorem rdropWhile_last {line : List UInt8} (other : line.getLast? ≠ some 13) :
    line.rdropWhile (· = 13) = line := by
  rw [List.rdropWhile_eq_self_iff]
  intro nonempty
  have last := List.getLast?_eq_some_getLast nonempty
  rw [last] at other
  simpa using other

namespace Incoming

/-- The `switch` keeps the status that goes with the line. -/
theorem statusOf_next (later : Bool) (line : List UInt8) {c : UInt8} (inner : c ≠ 10) :
    (statusOf later line).next c = statusOf later (line ++ [c]) := by
  have grown : line ++ [c] ≠ [] := by simp
  have last : (line ++ [c]).getLast? = some c := by simp
  have all : (line ++ [c]).all (· = 13) = (line.all (· = 13) && decide (c = 13)) := by simp
  unfold statusOf
  rw [last, all]
  by_cases cr : c = 13
  · subst cr
    split
    · rename_i fresh
      rw [fresh.2, fresh.1]
      rfl
    · split
      · rename_i fresh
        simp [fresh.1, fresh.2, HeaderStatus.next]
      · rename_i fresh mixed
        have still : ¬(later = true ∧ (line.all (· = 13) && decide ((13 : UInt8) = 13)) = true) := by
          have same : decide ((13 : UInt8) = 13) = true := rfl
          rw [same, Bool.and_true]
          exact mixed
        trans HeaderStatus.oneCr
        · split <;> rfl
        · rw [if_neg (fun both => grown both.2), if_neg still, if_pos rfl]
  · have other : (some c : Option UInt8) ≠ some 13 := by simpa using cr
    simp only [grown, and_false, if_false, cr, decide_false, Bool.and_false, Bool.false_eq_true,
      other]
    split
    · simp [HeaderStatus.next, inner, cr]
    · split
      · simp [HeaderStatus.next, inner, cr]
      · split <;> simp [HeaderStatus.next, inner, cr]

/-- A newline ends the header or a line. -/
theorem statusOf_newline (later : Bool) (line : List UInt8) :
    (statusOf later line).next 10 =
      if later ∧ line.all (· = 13) then .bodyRead else .oneLf := by
  unfold statusOf
  split
  · rename_i fresh
    rw [fresh.2, fresh.1]
    rfl
  · split
    · rfl
    · split <;> rfl

variable {r : Incoming} {c : UInt8} {tail : List UInt8}

/-- The next byte. -/
theorem unparsed_cons (there : r.unparsed = c :: tail) :
    r.parsePos < r.clientStream.length ∧ r.clientStream.getD r.parsePos 0 = c ∧
      r.clientStream.drop (r.parsePos + 1) = tail := by
  have less : r.parsePos < r.clientStream.length := by
    by_contra beyond
    rw [unparsed, List.drop_eq_nil_of_le (Nat.not_lt.mp beyond)] at there
    cases there
  rw [unparsed, List.drop_eq_getElem_cons less] at there
  have both := List.cons.inj there
  refine ⟨less, ?_, both.2⟩
  rw [List.getD_eq_getElem _ _ less]
  exact both.1

/-- The line goes on. -/
theorem soFar_check (reads : r.Reads) (there : r.unparsed = c :: tail) :
    (r.check c).soFar = r.soFar ++ [c] := by
  obtain ⟨less, value, -⟩ := unparsed_cons there
  show (r.clientStream.take (r.parsePos + 1)).drop r.headerLine = _
  rw [List.getD_eq_getElem _ _ less] at value
  have size : (r.clientStream.take r.parsePos).length = r.parsePos := by
    rw [List.length_take, Nat.min_eq_left reads.inside]
  rw [List.take_succ_eq_append_getElem less, value,
    List.drop_append_of_le_length (by rw [size]; exact reads.start)]
  rfl

/-- The line and what is in front of it are what was parsed. -/
theorem length_soFar (reads : r.Reads) : r.headerLine + r.soFar.length = r.parsePos := by
  have start := reads.start
  have inside := reads.inside
  rw [soFar, List.length_drop, List.length_take]
  omega

/-- The end of the line is marked at the first of its last carriage returns. -/
theorem headerEnd_check (reads : r.Reads) (mark : c = 13 ∨ c = 10)
    (marked : r.status = .readHeader ∨ r.status = .oneCr) :
    (r.check c).headerEnd = r.headerLine + (r.soFar.rdropWhile (· = 13)).length := by
  rcases marked with here | before
  · have other : r.soFar.getLast? ≠ some 13 := by
      intro last
      have status := reads.status
      rw [here] at status
      unfold statusOf at status
      rw [if_pos last] at status
      split at status
      · cases status
      · split at status
        · cases status
        · cases status
    show (if r.status = .readHeader ∧ (c = 13 ∨ c = 10) then r.parsePos else r.headerEnd) = _
    rw [if_pos ⟨here, mark⟩, rdropWhile_last other]
    exact (length_soFar reads).symm
  · show (if r.status = .readHeader ∧ (c = 13 ∨ c = 10) then r.parsePos else r.headerEnd) = _
    rw [before, if_neg (fun both => nomatch both.1)]
    exact reads.ends before

/-- A byte of a line that is no newline. -/
theorem check_reads (reads : r.Reads) (there : r.unparsed = c :: tail) (inner : c ≠ 10) :
    (r.check c).Reads ∧ (r.check c).unparsed = tail := by
  obtain ⟨less, -, rest⟩ := unparsed_cons there
  refine ⟨⟨?_, less, ?_, ?_, reads.first⟩, rest⟩
  · exact Nat.le_trans reads.start (Nat.le_succ _)
  · rw [soFar_check reads there]
    show r.status.next c = statusOf r.logline.isSome (r.soFar ++ [c])
    rw [reads.status]
    exact statusOf_next _ _ inner
  · intro cr
    have cr : r.status.next c = .oneCr := cr
    have both : c = 13 ∧ (r.status = .readHeader ∨ r.status = .oneCr) := by
      cases status : r.status <;> rw [status] at cr <;> simp only [HeaderStatus.next] at cr <;>
        grind
    rw [soFar_check reads there, headerEnd_check reads (.inl both.1) both.2, both.1,
      List.rdropWhile_concat_pos _ _ _ (by simp)]
    rfl

/-- A line goes on after a byte that is no newline. -/
theorem status_check (reads : r.Reads) (there : r.unparsed = c :: tail) (inner : c ≠ 10) :
    (r.check c).status ≠ .oneLf ∧ (r.check c).status ≠ .bodyRead := by
  have kept := (check_reads reads there inner).1.status
  rw [soFar_check reads there] at kept
  rw [kept]
  unfold statusOf
  rw [if_neg (fun both => by simp at both)]
  split
  · exact ⟨nofun, nofun⟩
  · split
    · exact ⟨nofun, nofun⟩
    · exact ⟨nofun, nofun⟩

end Incoming

/-! ## The end of a line -/

/-- A string ends where a zero was written. -/
theorem takeWhile_set {text : List UInt8} {first last : ℕ} (order : first ≤ last)
    (inside : last < text.length) :
    ((text.set last 0).drop first).takeWhile (· ≠ 0) =
      ((text.take last).drop first).takeWhile (· ≠ 0) := by
  have size : (text.take last).length = last := by
    rw [List.length_take, Nat.min_eq_left (Nat.le_of_lt inside)]
  rw [List.set_eq_take_append_cons_drop, if_pos inside,
    List.drop_append_of_le_length (by rw [size]; exact order), List.takeWhile_append]
  split
  · rename_i all
    rw [List.takeWhile_cons_of_neg (by simp), List.append_nil]
    exact ((List.takeWhile_prefix _).eq_of_length all).symm
  · rfl

/-- `process_logline` reads a string. -/
theorem processLogline_string {left right : List UInt8}
    (same : left.takeWhile (· ≠ 0) = right.takeWhile (· ≠ 0)) :
    processLogline left = processLogline right := by
  rw [processLogline, processLogline, same]

namespace Incoming

variable {r : Incoming} {tail : List UInt8} {kaMax : ℕ}

/-- A newline ends the header or a line. -/
theorem status_newline (reads : r.Reads) :
    (r.check 10).status =
      if r.logline.isSome ∧ r.soFar.all (· = 13) then .bodyRead else .oneLf := by
  show r.status.next 10 = _
  rw [reads.status]
  exact statusOf_newline _ _

/-- The end of a line is marked in it. -/
theorem headerEnd_newline (reads : r.Reads) (ends : (r.check 10).status = .oneLf) :
    (r.check 10).headerEnd = r.headerLine + (r.soFar.rdropWhile (· = 13)).length := by
  apply headerEnd_check reads (.inr rfl)
  have next : r.status.next 10 = .oneLf := ends
  cases status : r.status with
  | readHeader => exact .inl rfl
  | oneCr => exact .inr rfl
  | oneLf => rw [status] at next; cases next
  | twoCr => rw [status] at next; cases next
  | bodyRead => rw [status] at next; cases next

/-- What `endLine` leaves of `client_stream`. -/
def cut (r : Incoming) : List UInt8 := r.clientStream.set (r.check 10).headerEnd 0

/-- The end of a line is in front of the newline. -/
theorem headerEnd_le (reads : r.Reads) (ends : (r.check 10).status = .oneLf) :
    r.headerLine ≤ (r.check 10).headerEnd ∧ (r.check 10).headerEnd ≤ r.parsePos := by
  have shorter := (List.rdropWhile_prefix (fun c : UInt8 => c = 13) (l := r.soFar)).length_le
  have whole := length_soFar reads
  rw [headerEnd_newline reads ends]
  omega

/-- The string at `header_line` is the text of the line. -/
theorem takeWhile_cut (reads : r.Reads) (there : r.unparsed = 10 :: tail)
    (ends : (r.check 10).status = .oneLf) :
    (r.cut.drop r.headerLine).takeWhile (· ≠ 0) = lineText r.soFar := by
  have less := (unparsed_cons there).1
  have bounds := headerEnd_le reads ends
  have front := List.rdropWhile_prefix (fun c : UInt8 => c = 13) (l := r.soFar)
  have shorter := front.length_le
  have same : (r.clientStream.take (r.check 10).headerEnd).drop r.headerLine =
      r.soFar.take (r.soFar.rdropWhile (· = 13)).length := by
    have whole := length_soFar reads
    rw [headerEnd_newline reads ends]
    generalize (r.soFar.rdropWhile (· = 13)).length = kept at shorter
    rw [soFar, List.drop_take, List.drop_take, List.take_take]
    congr 1
    omega
  rw [cut, takeWhile_set bounds.1 (by omega), same, ← List.prefix_iff_eq_take.mp front, lineText]

/-- The bytes that are not parsed stay. -/
theorem drop_cut (reads : r.Reads) (there : r.unparsed = 10 :: tail)
    (ends : (r.check 10).status = .oneLf) : r.cut.drop (r.parsePos + 1) = tail := by
  have bounds := headerEnd_le reads ends
  rw [cut, List.drop_set_of_lt (by omega)]
  exact (unparsed_cons there).2.2

end Incoming

/-! ## The loop -/

/-- What the loop of `read_header` has made of some bytes: what the bytes ask for, whatever follows
them. -/
def Agrees (kaMax : ℕ) (asks : List UInt8 → Asked) (next : Incoming) : Parsed → Prop
  | .more => next.Reads ∧ next.unparsed = [] ∧ ∀ more, asks more = next.resume kaMax more
  | .refused => ∀ more, asks more = .refused
  | .dropped => ∀ more, asks more = .dropped next.fields (next.unparsed ++ more)
  | .ended => ∃ logline, next.logline = some logline ∧
      ∀ more, asks more = .complete ⟨logline, next.fields⟩ (next.unparsed ++ more)

namespace Incoming

variable {r : Incoming} {tail : List UInt8} {kaMax : ℕ}

/-- The request after a newline that ends a line, before the line is handed on. -/
def atNewline (r : Incoming) : Incoming := { r.check 10 with clientStream := r.cut }

/-- A later line ends. -/
theorem endLine_later {logline : Logline} (reads : r.Reads) (there : r.unparsed = 10 :: tail)
    (ends : (r.check 10).status = .oneLf) (later : r.logline = some logline) :
    (r.check 10).endLine kaMax =
      r.atNewline.endOption (processOptionLine kaMax (lineText r.soFar) r.fields) := by
  have text : r.atNewline.line = lineText r.soFar := takeWhile_cut reads there ends
  have known : (r.check 10).logline.isSome = true := congrArg Option.isSome later
  rw [endLine, if_pos known, ← text]
  rfl

/-- The first line ends. -/
theorem endLine_first (reads : r.Reads) (there : r.unparsed = 10 :: tail)
    (ends : (r.check 10).status = .oneLf) (first : r.logline = none) :
    (r.check 10).endLine kaMax = r.atNewline.endFirst (processLogline (lineText r.soFar)) := by
  have text := takeWhile_cut reads there ends
  rw [(reads.first first).1, List.drop_zero] at text
  have same : processLogline r.cut = processLogline (lineText r.soFar) := by
    apply processLogline_string
    rw [text, lineText, List.takeWhile_idem]
  have unknown : ¬(r.check 10).logline.isSome = true := by
    show ¬r.logline.isSome = true
    rw [first]
    exact Bool.false_ne_true
  rw [endLine, if_neg unknown, ← same]
  rfl

/-- A line begins behind a newline. -/
theorem reads_newline {next : Incoming} (there : r.unparsed = 10 :: tail)
    (stream : next.clientStream.length = r.clientStream.length)
    (start : next.headerLine = r.parsePos + 1) (position : next.parsePos = r.parsePos + 1)
    (status : next.status = .oneLf) (known : next.logline.isSome = true) :
    next.Reads ∧ next.soFar = [] := by
  have empty : next.soFar = [] := by
    rw [soFar, start, position]
    exact List.drop_eq_nil_of_le (List.length_take_le _ _)
  refine ⟨⟨?_, ?_, ?_, ?_, ?_⟩, empty⟩
  · rw [start, position]
  · rw [position, stream]
    exact (unparsed_cons there).1
  · rw [status, known, empty]
    rfl
  · intro cr
    rw [status] at cr
    cases cr
  · intro unknown
    rw [unknown] at known
    cases known

/-- A request whose first line is known. -/
theorem resume_later {logline : Logline} (later : r.logline = some logline) (bytes : List UInt8) :
    r.resume kaMax bytes = askedLater kaMax logline r.fields r.soFar bytes := by
  rw [resume, later]

/-- A request whose first line is not known. -/
theorem resume_first (first : r.logline = none) (bytes : List UInt8) :
    r.resume kaMax bytes = asked kaMax r.soFar bytes := by
  rw [resume, first]

/-- What the end of a line makes of a request: the loop goes on, or it ends. -/
def Ends (kaMax : ℕ) (r : Incoming) (tail : List UInt8) (next : Incoming × Parsed) : Prop :=
  next.1.clientStream.length = r.clientStream.length ∧ next.1.unparsed = tail ∧
    (next.2 = .more ∧ next.1.Reads ∧
        (∀ more, r.resume kaMax (10 :: tail ++ more) = next.1.resume kaMax (tail ++ more)) ∨
      next.2 ≠ .more ∧
        Agrees kaMax (fun more => r.resume kaMax (10 :: tail ++ more)) next.1 next.2)

/-- The end of a later line. -/
theorem ends_later {logline : Logline} (reads : r.Reads) (there : r.unparsed = 10 :: tail)
    (ends : (r.check 10).status = .oneLf) (later : r.logline = some logline) :
    Ends kaMax r tail ((r.check 10).endLine kaMax) := by
  have size : r.cut.length = r.clientStream.length := List.length_set
  have rest : r.cut.drop (r.parsePos + 1) = tail := drop_cut reads there ends
  have mixed : ¬r.soFar.all (· = 13) = true := by
    intro blank
    have status := status_newline reads
    rw [ends, later, if_pos ⟨rfl, blank⟩] at status
    cases status
  have asks : ∀ more, r.resume kaMax (10 :: tail ++ more) =
      askedLater kaMax logline r.fields r.soFar (10 :: (tail ++ more)) :=
    fun more => resume_later later _
  rw [endLine_later reads there ends later]
  cases option : processOptionLine kaMax (lineText r.soFar) r.fields with
  | none =>
    refine ⟨size, rest, .inr ⟨nofun, ?_⟩⟩
    intro more
    show r.resume kaMax (10 :: tail ++ more) =
      .dropped r.fields (r.cut.drop (r.parsePos + 1) ++ more)
    rw [asks, rest, askedLater, if_pos rfl, if_neg mixed, option]
  | some fields =>
    have begun := @reads_newline r tail (r.atNewline.endOption (some fields)).1 there size rfl rfl
      ends (congrArg Option.isSome later)
    have known : (r.atNewline.endOption (some fields)).1.logline = some logline := later
    refine ⟨size, rest, .inl ⟨rfl, begun.1, ?_⟩⟩
    intro more
    rw [asks, askedLater, if_pos rfl, if_neg mixed, option, resume_later known, begun.2]
    rfl

/-- The end of the first line. -/
theorem ends_first (reads : r.Reads) (there : r.unparsed = 10 :: tail)
    (ends : (r.check 10).status = .oneLf) (first : r.logline = none) :
    Ends kaMax r tail ((r.check 10).endLine kaMax) := by
  have size : r.cut.length = r.clientStream.length := List.length_set
  have rest : r.cut.drop (r.parsePos + 1) = tail := drop_cut reads there ends
  have fresh := (reads.first first).2
  have asks : ∀ more, r.resume kaMax (10 :: tail ++ more) =
      asked kaMax r.soFar (10 :: (tail ++ more)) := fun more => resume_first first _
  rw [endLine_first reads there ends first, endFirst]
  dsimp only
  by_cases accepted : (processLogline (lineText r.soFar)).answer ≠ .accepted
  · rw [if_pos accepted]
    refine ⟨size, rest, .inr ⟨nofun, ?_⟩⟩
    intro more
    show r.resume kaMax (10 :: tail ++ more) = .refused
    rw [asks, asked, if_pos rfl]
    exact if_pos accepted
  · rw [if_neg accepted]
    by_cases simple : (processLogline (lineText r.soFar)).simple = true
    · rw [if_pos simple]
      refine ⟨size, rest, .inr ⟨nofun, _, rfl, ?_⟩⟩
      intro more
      show r.resume kaMax (10 :: tail ++ more) =
        .complete ⟨_, r.fields⟩ (r.cut.drop (r.parsePos + 1) ++ more)
      rw [asks, asked, if_pos rfl, rest, fresh]
      exact (if_neg accepted).trans (if_pos simple)
    · rw [if_neg simple]
      have begun := @reads_newline r tail
        { r.atNewline with
          logline := some (processLogline (lineText r.soFar))
          headerLine := r.atNewline.parsePos }
        there size rfl rfl ends rfl
      refine ⟨size, rest, .inl ⟨rfl, begun.1, ?_⟩⟩
      intro more
      have goes := @resume_later { r.atNewline with
          logline := some (processLogline (lineText r.soFar))
          headerLine := r.atNewline.parsePos } kaMax _ rfl (tail ++ more)
      rw [begun.2] at goes
      rw [asks, asked, if_pos rfl]
      refine (if_neg accepted).trans ((if_neg simple).trans ?_)
      rw [← fresh]
      exact goes.symm

/-- A byte of a line that is no newline asks for nothing. -/
theorem resume_check {c : UInt8} (reads : r.Reads) (there : r.unparsed = c :: tail)
    (inner : c ≠ 10) (bytes : List UInt8) :
    r.resume kaMax (c :: bytes) = (r.check c).resume kaMax bytes := by
  have grown := soFar_check reads there
  cases later : r.logline with
  | some logline =>
    have known : (r.check c).logline = some logline := later
    rw [resume_later later, resume_later known, grown, askedLater, if_neg inner]
    rfl
  | none =>
    have unknown : (r.check c).logline = none := later
    rw [resume_first later, resume_first unknown, grown, asked, if_neg inner]

/-- A line of carriage returns ends the header. -/
theorem agrees_blank (there : r.unparsed = 10 :: tail)
    (blank : r.logline.isSome ∧ r.soFar.all (· = 13)) :
    Agrees kaMax (fun more => r.resume kaMax (10 :: tail ++ more)) (r.check 10) .ended := by
  obtain ⟨logline, later⟩ := Option.isSome_iff_exists.mp blank.1
  refine ⟨logline, later, ?_⟩
  intro more
  have rest : (r.check 10).unparsed = tail := (unparsed_cons there).2.2
  have asks : r.resume kaMax (10 :: tail ++ more) =
      askedLater kaMax logline r.fields r.soFar (10 :: (tail ++ more)) := resume_later later _
  show r.resume kaMax (10 :: tail ++ more) = .complete ⟨logline, r.fields⟩ ((r.check 10).unparsed ++ more)
  rw [asks, askedLater, if_pos rfl, if_pos blank.2, rest]

/-- The loop of `read_header` agrees with the stream. -/
theorem parse_agrees {bytes : List UInt8} (reads : r.Reads) (there : r.unparsed = bytes) :
    (r.parse kaMax bytes.length).1.clientStream.length = r.clientStream.length ∧
      Agrees kaMax (fun more => r.resume kaMax (bytes ++ more))
        (r.parse kaMax bytes.length).1 (r.parse kaMax bytes.length).2 := by
  induction bytes generalizing r with
  | nil => exact ⟨rfl, reads, there, fun more => rfl⟩
  | cons c tail ih =>
    have value := (unparsed_cons there).2.1
    rw [List.length_cons, parse, value]
    dsimp only
    by_cases newline : c = 10
    · subst newline
      have status := status_newline reads
      by_cases blank : r.logline.isSome ∧ r.soFar.all (· = 13)
      · rw [if_pos blank] at status
        have going : (r.check 10).status ≠ .oneLf := by
          rw [status]
          nofun
        rw [if_neg going, if_pos status]
        exact ⟨rfl, agrees_blank there blank⟩
      · rw [if_neg blank] at status
        have ends : Ends kaMax r tail ((r.check 10).endLine kaMax) := by
          cases later : r.logline with
          | some logline => exact ends_later reads there status later
          | none => exact ends_first reads there status later
        obtain ⟨size, rest, ⟨goes, begun, same⟩ | ⟨stops, agrees⟩⟩ := ends
        · have all := ih begun rest
          have asks : (fun more => r.resume kaMax (10 :: tail ++ more)) =
              fun more => ((r.check 10).endLine kaMax).1.resume kaMax (tail ++ more) :=
            funext same
          rw [if_pos status, if_pos goes, asks]
          exact ⟨all.1.trans size, all.2⟩
        · rw [if_pos status, if_neg stops]
          exact ⟨size, agrees⟩
    · have going := status_check reads there newline
      obtain ⟨next, rest⟩ := check_reads reads there newline
      have all := ih next rest
      have asks : (fun more => r.resume kaMax (c :: tail ++ more)) =
          fun more => (r.check c).resume kaMax (tail ++ more) :=
        funext fun more => resume_check reads there newline (tail ++ more)
      rw [if_neg going.1, if_neg going.2, asks]
      exact all

/-- The end of a line moves nothing. -/
theorem endLine_kept : (r.endLine kaMax).1.parsePos = r.parsePos ∧
    (r.endLine kaMax).1.clientStream.length = r.clientStream.length := by
  have size : (r.clientStream.set r.headerEnd 0).length = r.clientStream.length := List.length_set
  rw [endLine]
  dsimp only
  split
  · cases processOptionLine kaMax
      (Incoming.line { r with clientStream := r.clientStream.set r.headerEnd 0 }) r.fields with
    | none => exact ⟨rfl, size⟩
    | some fields => exact ⟨rfl, size⟩
  · rw [endFirst]
    dsimp only
    split
    · exact ⟨rfl, size⟩
    · split
      · exact ⟨rfl, size⟩
      · exact ⟨rfl, size⟩

/-- The loop parses no more than there is. -/
theorem parse_inside {count : ℕ} (enough : r.parsePos + count ≤ r.clientStream.length) :
    (r.parse kaMax count).1.parsePos ≤ (r.parse kaMax count).1.clientStream.length := by
  induction count generalizing r with
  | zero => exact enough
  | succ count ih =>
    have step : ∀ c, (r.check c).parsePos + count ≤ (r.check c).clientStream.length := by
      intro c
      show r.parsePos + 1 + count ≤ r.clientStream.length
      omega
    rw [parse]
    dsimp only
    split
    · have kept := @endLine_kept (r.check (r.clientStream.getD r.parsePos 0)) kaMax
      have less := step (r.clientStream.getD r.parsePos 0)
      split
      · apply ih
        rw [kept.1, kept.2]
        exact less
      · rw [kept.1, kept.2]
        omega
    · split
      · have less := step (r.clientStream.getD r.parsePos 0)
        show (r.check _).parsePos ≤ (r.check _).clientStream.length
        omega
      · exact ih (step _)

/-- Some bytes are read. -/
def push (r : Incoming) (bytes : List UInt8) : Incoming :=
  { r with clientStream := r.clientStream ++ bytes }

/-- The line stays when bytes are read. -/
theorem soFar_push (reads : r.Reads) (bytes : List UInt8) : (r.push bytes).soFar = r.soFar := by
  show ((r.clientStream ++ bytes).take r.parsePos).drop r.headerLine = _
  rw [List.take_append_of_le_length reads.inside]
  rfl

/-- Bytes are read when all of them are parsed. -/
theorem reads_push (reads : r.Reads) (parsed : r.unparsed = []) (bytes : List UInt8) :
    (r.push bytes).Reads ∧ (r.push bytes).unparsed = bytes ∧
      ∀ more, (r.push bytes).resume kaMax more = r.resume kaMax more := by
  have same := soFar_push reads bytes
  have inside := reads.inside
  have grown : (r.push bytes).clientStream.length = r.clientStream.length + bytes.length :=
    List.length_append
  refine ⟨⟨reads.start, ?_, ?_, ?_, reads.first⟩, ?_, ?_⟩
  · rw [grown]
    exact Nat.le_trans inside (Nat.le_add_right _ _)
  · rw [same]
    exact reads.status
  · rw [same]
    exact reads.ends
  · show (r.clientStream ++ bytes).drop r.parsePos = bytes
    rw [List.drop_append_of_le_length inside]
    show r.unparsed ++ bytes = bytes
    rw [parsed]
    rfl
  · intro more
    rw [resume, resume, same]
    rfl

end Incoming

end BoaIpcam.Intake
