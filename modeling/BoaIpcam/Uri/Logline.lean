import BoaIpcam.Numeral
import BoaIpcam.Uri.Translate

/-!
# The request line

`process_logline` of `request.c` copies the URI of the first line of a request into the array
`request_uri`. It measures the first word behind the method. When the version is that of RTSP the
line is rewritten to HTTP/1.1, and the URI is looked for once more: the first slash at least eight
characters behind the start of the first word, up to the next blank. That text is not measured.

A line ends with the first NUL byte of `client_stream`.
-/
namespace BoaIpcam

/-! ## The words of a line -/

/-- The method and the text behind its blank. `DESCRIBE` is treated as `GET`. -/
def lineMethod (line : List UInt8) : Option (Method × List UInt8) :=
  if ascii "GET " <+: line then some (.get, line.drop 4)
  else if ascii "HEAD " <+: line then some (.head, line.drop 5)
  else if ascii "POST " <+: line then some (.post, line.drop 5)
  else if ascii "DESCRIBE " <+: line then some (.get, line.drop 9)
  else none

/-- The URI, the number of blanks behind it and the text behind them. -/
structure LineWords where
  /-- The URI. -/
  uri : List UInt8
  /-- How many blanks are behind it. -/
  blanks : Nat
  /-- The text behind them. -/
  version : List UInt8
deriving DecidableEq, Repr

/-- Cut the text behind the method into words. -/
def lineWords (text : List UInt8) : LineWords :=
  let start := text.dropWhile (· = 32)
  let behind := start.dropWhile (· ≠ 32)
  ⟨start.takeWhile (· ≠ 32), (behind.takeWhile (· = 32)).length, behind.dropWhile (· = 32)⟩

/-- `sscanf` with a protocol and the format `/%u.%u`. -/
def scanVersion (protocol text : List UInt8) : Option (Nat × Nat) :=
  (scanLiteral protocol text).bind fun rest =>
    (scanUnsigned rest).bind fun (major, rest) =>
      (scanChar 46 rest).bind fun rest =>
        (scanUnsigned rest).map fun (minor, _) => (major, minor)

/-- The line from the URI on after eight characters of the version were overwritten. -/
def LineWords.rewritten (words : LineWords) : List UInt8 :=
  words.uri ++ (List.replicate words.blanks 32 ++ (ascii "HTTP/1.1" ++ words.version.drop 8))

/-- The second look for the URI. -/
def LineWords.rescanned (words : LineWords) : List UInt8 :=
  match (words.rewritten.drop 8).dropWhile (· ≠ 47) with
  | [] => ascii "/"
  | slash :: tail => slash :: tail.takeWhile (· ≠ 32)

/-! ## The function -/

/-- What becomes of a request line. -/
inductive LoglineAnswer where
  | notImplemented
  | badRequest
  | accepted
deriving DecidableEq, Repr

/-- What `process_logline` does: the method, the texts that it copies into `request_uri` one after
the other, each with a terminator, and what it sets. -/
structure Logline where
  /-- The method. -/
  method : Option Method
  /-- The texts that are copied. -/
  stored : List (List UInt8)
  /-- `http_version`. -/
  httpVersion : List UInt8
  /-- `simple`. -/
  simple : Bool
  /-- What is answered. -/
  answer : LoglineAnswer
deriving DecidableEq

/-- The end of `process_logline`: a simple request has no header to ask for. -/
def Logline.finish (method : Method) (stored : List (List UInt8)) (httpVersion : List UInt8)
    (simple : Bool) : Logline :=
  ⟨some method, stored, httpVersion, simple,
    if method = .head ∧ simple = true then .badRequest else .accepted⟩

/-- `process_logline`. -/
def processLogline (clientStream : List UInt8) : Logline :=
  match lineMethod (clientStream.takeWhile (· ≠ 0)) with
  | none => ⟨none, [], [], false, .notImplemented⟩
  | some (method, text) =>
    let words := lineWords text
    if maxHeaderLength < words.uri.length then
      ⟨some method, [], ascii "HTTP/0.9", true, .badRequest⟩
    else if words.blanks = 0 then .finish method [words.uri] (ascii "HTTP/0.9") true
    else
      match scanVersion (ascii "HTTP/") words.version with
      | some (major, minor) =>
        if major = 1 ∧ (minor = 0 ∨ minor = 1) then .finish method [words.uri] words.version false
        else if 1 < major ∨ major ≠ 0 ∧ 1 < minor then
          ⟨some method, [words.uri], ascii "HTTP/0.9", true, .badRequest⟩
        else .finish method [words.uri] (ascii "HTTP/0.9") true
      | none =>
        match scanVersion (ascii "RTSP/") words.version with
        | some _ =>
          .finish method [words.uri, words.rescanned]
            (ascii "HTTP/1.1" ++ words.version.drop 8) false
        | none => ⟨some method, [words.uri], ascii "HTTP/0.9", true, .badRequest⟩

/-- The texts fit into `request_uri`, which has room for a terminator behind `MAX_HEADER_LENGTH`
characters. -/
def Logline.Fits (logline : Logline) : Prop :=
  ∀ text ∈ logline.stored, text.length ≤ maxHeaderLength

instance (logline : Logline) : Decidable logline.Fits :=
  inferInstanceAs (Decidable (∀ _ ∈ _, _ ≤ _))

/-! ## Versions -/

/-! ## The second look -/

/-- The words of a line whose URI fits and whose version is that of RTSP. -/
def rtspLine (clientStream : List UInt8) : Option LineWords :=
  (lineMethod (clientStream.takeWhile (· ≠ 0))).bind fun (_, text) =>
    let words := lineWords text
    if words.uri.length ≤ maxHeaderLength ∧ words.blanks ≠ 0 ∧
        scanVersion (ascii "HTTP/") words.version = none ∧
        (scanVersion (ascii "RTSP/") words.version).isSome = true then some words
    else none

/-- What follows the first eight characters of the version. -/
def LineWords.tail (words : LineWords) : List UInt8 := words.version.drop 8

/-- The text from the slash of the new version to the next blank; or, when the URI and the blanks are
so short that this slash is passed over, from the first slash behind the version. -/
def LineWords.overrun (words : LineWords) : List UInt8 :=
  if 4 ≤ words.uri.length + words.blanks then ascii "/1.1" ++ words.tail.takeWhile (· ≠ 32)
  else (words.tail.dropWhile (· ≠ 47)).takeWhile (· ≠ 32)

/-- A text up to a mark ends before the first mark. -/
theorem length_takeWhile_append_le (mark : UInt8) (before after : List UInt8) :
    ((before ++ mark :: after).takeWhile (· ≠ mark)).length ≤ before.length := by
  induction before with
  | nil => simp
  | cons c before ih =>
    by_cases same : c = mark
    · simp [same]
    · rw [List.cons_append, List.takeWhile_cons_of_pos (by simp [same]), List.length_cons,
        List.length_cons]
      exact Nat.succ_le_succ ih

/-- The text from the first slash on, when the text before it has none. -/
theorem dropWhile_slash {before : List UInt8} (plain : 47 ∉ before) (after : List UInt8) :
    (before ++ after).dropWhile (· ≠ 47) = after.dropWhile (· ≠ 47) := by
  apply List.dropWhile_append_of_pos
  intro c member
  have other : c ≠ 47 := fun same => plain (same ▸ member)
  exact decide_eq_true other

namespace LineWords

/-- With a slash in the URI from its ninth character on, the second look finds a part of the URI. -/
theorem rescanned_inside {words : LineWords} (slash : 47 ∈ words.uri.drop 8)
    (blank : words.blanks ≠ 0) : words.rescanned.length ≤ words.uri.length := by
  obtain ⟨blanks, more⟩ := Nat.exists_eq_succ_of_ne_zero blank
  obtain ⟨before, after, cut, first⟩ := List.eq_append_cons_of_mem slash
  have size := congrArg List.length cut
  simp only [List.length_drop, List.length_append, List.length_cons] at size
  have long : 8 - words.uri.length = 0 := by omega
  have found : (words.rewritten.drop 8).dropWhile (· ≠ 47) =
      47 :: (after ++ 32 :: (List.replicate blanks 32 ++
        (ascii "HTTP/1.1" ++ words.version.drop 8))) := by
    rw [rewritten, List.drop_append, long, List.drop_zero, cut, List.append_assoc,
      dropWhile_slash first, more, List.replicate_succ]
    rfl
  have short := length_takeWhile_append_le 32 after (List.replicate blanks 32 ++
    (ascii "HTTP/1.1" ++ words.version.drop 8))
  rw [rescanned, found]
  dsimp only
  rw [List.length_cons]
  omega

/-- Without one the second look finds a text behind the URI. -/
theorem rescanned_behind {words : LineWords} (plain : 47 ∉ words.uri.drop 8) :
    words.rescanned = if words.overrun = [] then ascii "/" else words.overrun := by
  have blanks_plain : ∀ count, 47 ∉ List.replicate count (32 : UInt8) := by
    intro count member
    exact absurd (List.eq_of_mem_replicate member) (by decide)
  have behind : words.rewritten.drop 8 = words.uri.drop 8 ++
      (List.replicate words.blanks 32 ++ (ascii "HTTP" ++ (ascii "/1.1" ++ words.tail))).drop
        (8 - words.uri.length) := by
    rw [rewritten, List.drop_append]
    rfl
  rw [rescanned, behind, dropWhile_slash plain]
  by_cases near : 4 ≤ words.uri.length + words.blanks
  · -- the slash of the new version is not passed over
    have passed : (8 - words.uri.length) ≤
        (List.replicate words.blanks (32 : UInt8) ++ ascii "HTTP").length := by
      rw [List.length_append, List.length_replicate]
      show 8 - words.uri.length ≤ words.blanks + 4
      omega
    have none : 47 ∉ (List.replicate words.blanks (32 : UInt8) ++ ascii "HTTP").drop
        (8 - words.uri.length) := by
      intro member
      rcases List.mem_append.mp (List.mem_of_mem_drop member) with blank | letter
      · exact blanks_plain _ blank
      · exact absurd letter (by decide)
    rw [← List.append_assoc (List.replicate words.blanks (32 : UInt8)),
      List.drop_append_of_le_length passed, dropWhile_slash none, overrun, if_pos near,
      if_neg (by simp [ascii])]
    rfl
  · have far : words.blanks + 5 ≤ 8 - words.uri.length := by omega
    have split : List.replicate words.blanks (32 : UInt8) ++
        (ascii "HTTP" ++ (ascii "/1.1" ++ words.tail)) =
        (List.replicate words.blanks 32 ++ ascii "HTTP/") ++ (ascii "1.1" ++ words.tail) := by
      rw [List.append_assoc]
      rfl
    have size : (List.replicate words.blanks (32 : UInt8) ++ ascii "HTTP/").length =
        words.blanks + 5 := by
      rw [List.length_append, List.length_replicate]
      rfl
    have inside : 8 - words.uri.length - (words.blanks + 5) ≤ (ascii "1.1").length := by
      show _ ≤ 3
      omega
    have none : 47 ∉ (ascii "1.1").drop (8 - words.uri.length - (words.blanks + 5)) := by
      intro member
      exact absurd (List.mem_of_mem_drop member) (by decide)
    rw [split, List.drop_append, List.drop_eq_nil_of_le (by omega), List.nil_append, size,
      List.drop_append_of_le_length inside, dropWhile_slash none, overrun, if_neg near]
    cases left : words.tail.dropWhile (· ≠ 47) with
    | nil => rfl
    | cons slash rest =>
      have head := List.head?_dropWhile_not (fun c : UInt8 => decide (c ≠ 47)) words.tail
      rw [left] at head
      have same : slash = 47 := by simpa using head
      subst same
      rw [if_neg (by simp)]
      rfl

end LineWords

/-- The texts that fit into `request_uri`, when the line has a method. -/
theorem finish_fits {method : Method} {stored : List (List UInt8)} {httpVersion : List UInt8}
    {simple : Bool} : (Logline.finish method stored httpVersion simple).Fits ↔
      ∀ text ∈ stored, text.length ≤ maxHeaderLength := Iff.rfl

/-- For every content of `client_stream`: every text that is copied into `request_uri` has at most
`MAX_HEADER_LENGTH` characters, if and only if the line has not an RTSP version behind a URI that
fits, or the URI has a slash from its ninth character on, or the text behind the URI that is then
taken for it has at most `MAX_HEADER_LENGTH` characters. -/
theorem request_uri_fits_iff (clientStream : List UInt8) :
    (processLogline clientStream).Fits ↔
      ∀ words ∈ rtspLine clientStream,
        47 ∈ words.uri.drop 8 ∨ words.overrun.length ≤ maxHeaderLength := by
  unfold processLogline rtspLine
  cases lineMethod (clientStream.takeWhile (· ≠ 0)) with
  | none => simp [Logline.Fits]
  | some pair =>
    obtain ⟨method, text⟩ := pair
    rw [Option.bind_some]
    dsimp only
    generalize lineWords text = words
    by_cases long : maxHeaderLength < words.uri.length
    · rw [if_pos long, if_neg fun line => Nat.not_lt.mpr line.1 long]
      simp [Logline.Fits]
    · have fits : words.uri.length ≤ maxHeaderLength := Nat.not_lt.mp long
      rw [if_neg long]
      by_cases last : words.blanks = 0
      · rw [if_pos last, if_neg fun line => line.2.1 last, finish_fits]
        simp [fits]
      · rw [if_neg last]
        cases http : scanVersion (ascii "HTTP/") words.version with
        | some version =>
          simp only [reduceCtorEq, false_and, and_false, if_false]
          have stored : ∀ logline : Logline, logline.stored = [words.uri] → logline.Fits := by
            intro logline one text member
            rw [one, List.mem_singleton] at member
            rw [member]
            exact fits
          split
          · simp [stored, Logline.finish]
          · split <;> simp [stored, Logline.finish]
        | none =>
          cases rtsp : scanVersion (ascii "RTSP/") words.version with
          | none =>
            dsimp only
            rw [if_neg fun line => by cases line.2.2.2]
            simp [Logline.Fits, fits]
          | some version =>
            dsimp only
            rw [if_pos ⟨fits, last, rfl, rfl⟩, finish_fits]
            simp only [List.mem_cons, List.not_mem_nil, or_false, forall_eq_or_imp, forall_eq,
              fits, true_and, Option.mem_some_iff, forall_eq']
            by_cases slash : 47 ∈ words.uri.drop 8
            · have inside := LineWords.rescanned_inside slash last
              simp only [slash, true_or, iff_true]
              omega
            · rw [LineWords.rescanned_behind slash]
              simp only [slash, false_or]
              split
              · rename_i none
                rw [none]
                exact iff_of_true (by decide) (by decide)
              · exact Iff.rfl

/-- A request of RTSP whose version has a long tail. -/
def longVersion : List UInt8 := ascii "GET rtsp RTSP/1.0" ++ List.replicate 1100 65

/-- `/1.1` and the tail of the version are copied into `request_uri`, which is too short. -/
theorem request_uri_overrun : ¬(processLogline longVersion).Fits := by
  set_option maxRecDepth 8000 in
  decide

end BoaIpcam
