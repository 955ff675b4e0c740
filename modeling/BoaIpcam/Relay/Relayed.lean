import Mathlib.Data.List.DropRight
import BoaIpcam.Relay.CgiHeader
import BoaIpcam.Relay.Pages

/-!
# What a client gets of a script

The response is a function of the script's output alone: of the front that fits in half of the
buffer, which is searched for the end of a header, and of the bytes after it. `process_cgi_header`
puts the first bytes of that response in the buffer.
-/
namespace BoaIpcam.Relay

open Cells
open Visca (strstr)

/-! ## The response -/

/-- The head of a script's response. -/
def cgiHead (info : Info) : List UInt8 := ascii "HTTP/1.1 200 OK\r\n" ++ closing info

/-- From the newline at an offset to the end of the header. -/
def pastOf (seen : List UInt8) (c : ℕ) : ℕ := if seen.getD (c + 1) 0 = 13 then c + 2 else c + 1

/-- The address of a `Location` line. -/
def locationUrl (text : List UInt8) : List UInt8 :=
  ((text.drop 10).takeWhile (· ≠ 10)).rdropWhile (· = 13)

/-- What is left of the output after the `Location` line and the line ends behind it. -/
def locationMore (seen text : List UInt8) : List UInt8 :=
  ((seen.drop ((locationUrl text).length + 11)).dropWhile fun c => c = 10 ∨ c = 13).takeWhile (· ≠ 0)

/-- The front of a script's output that is searched for its header. -/
def seenOf (output : List UInt8) : List UInt8 := output.take (bufferSize / 2)

/-- The front as a C string. -/
def textOf (output : List UInt8) : List UInt8 := (seenOf output).takeWhile (· ≠ 0)

/-- The response to a request for a script. -/
def relayed (info : Info) (method : Method) (simple : Bool) (output : List UInt8) : List UInt8 :=
  match headerEndOf (textOf output) with
  | none => errorPage (ascii "HTTP/1.0 502 Bad Gateway\r\n") badGatewayBody info method simple
  | some c =>
    if simple then output.drop (pastOf (seenOf output) c)
    else if startsWith (ascii "Status: ") (textOf output) then
      ascii "HTTP/1.0 " ++ output.drop 8
    else if startsWith (ascii "Location: ") (textOf output) then
      if (textOf output).getD 10 0 = 47 then
        errorPage (ascii "HTTP/1.0 400 Bad Request\r\n") badRequestBody info method simple
      else movedPage info method simple (locationUrl (textOf output))
        (locationMore (seenOf output) (textOf output))
    else cgiHead info ++
      if method = .head then output.take (pastOf (seenOf output) c) else output

/-- The page of a redirection fits in the half of the buffer before the script's bytes. -/
def RedirectFits (info : Info) (method : Method) (simple : Bool) (output : List UInt8) : Prop :=
  startsWith (ascii "Location: ") (textOf output) →
    (movedPage info method simple (locationUrl (textOf output))
      (locationMore (seenOf output) (textOf output))).length ≤ bufferSize / 2

/-! ## Searching -/

/-- Where `strstr` finds a word, the word is. -/
theorem strstr_starts {needle text : List UInt8} {c : ℕ} (found : strstr needle text = some c) :
    needle <+: text.drop c := by
  induction text generalizing c with
  | nil =>
    rw [strstr] at found
    split at found
    · rename_i empty
      rw [empty]
      exact List.nil_prefix
    · cases found
  | cons d rest ih =>
    rw [strstr] at found
    split at found
    · rename_i here
      cases found
      exact List.isPrefixOf_iff_prefix.mp here
    · obtain ⟨later, at_later, rfl⟩ := Option.map_eq_some_iff.mp found
      exact ih at_later

/-- A byte is found after the bytes that are others. -/
theorem strstr_byte {d : UInt8} {text : List UInt8} (there : d ∈ text) :
    strstr [d] text = some (text.takeWhile (· ≠ d)).length := by
  induction text with
  | nil => cases there
  | cons c rest ih =>
    rw [strstr]
    by_cases same : c = d
    · subst same
      simp
    · have later : d ∈ rest := (List.mem_cons.mp there).resolve_left (Ne.symm same)
      have other : ¬([d].isPrefixOf (c :: rest) = true) := by
        simp [List.isPrefixOf, Ne.symm same]
      rw [if_neg other, ih later, List.takeWhile_cons_of_pos (by simpa using same)]
      rfl

/-- The end of the header is in the text, with the empty line behind it. -/
theorem headerEndOf_some {text : List UInt8} {c : ℕ} (found : headerEndOf text = some c) :
    text[c]? = some 10 ∧
      (text[c + 1]? = some 10 ∨ (text[c + 1]? = some 13 ∧ text[c + 2]? = some 10)) := by
  have cell : ∀ needle : List UInt8, ∀ offset, needle <+: text.drop c → offset < needle.length →
      text[c + offset]? = needle[offset]? := by
    rintro needle offset ⟨rest, whole⟩ inside
    rw [← List.getElem?_drop, ← whole, List.getElem?_append_left inside]
  rw [headerEndOf] at found
  split at found
  · rename_i c' first
    cases found
    have start := strstr_starts first
    exact ⟨cell _ 0 start (by decide), .inr ⟨cell _ 1 start (by decide), cell _ 2 start (by decide)⟩⟩
  · have start := strstr_starts found
    exact ⟨cell _ 0 start (by decide), .inl (cell _ 1 start (by decide))⟩

/-! ## The script's bytes in the buffer -/

/-- A C string that ends in the buffer at the latest at a NUL. -/
theorem cstr_of_slice {buffer : ℕ → UInt8} {position stop : ℕ} (proper : position ≤ stop)
    (bounded : stop ≤ bufferSize) (ends : buffer stop = 0) :
    cstr buffer position = (slice buffer position stop).takeWhile (· ≠ 0) := by
  have zero : slice buffer stop (bufferSize + 1) =
      0 :: slice buffer (stop + 1) (bufferSize + 1) := by
    rw [slice_cons (by omega), ends]
  rw [cstr, ← slice_append proper (by omega : stop ≤ bufferSize + 1), zero]
  generalize slice buffer position stop = bytes
  induction bytes with
  | nil => rfl
  | cons c bytes ih =>
    rw [List.cons_append, List.takeWhile_cons, List.takeWhile_cons, ih]

/-- Going back over carriage returns stops at the last byte that is none. -/
theorem backOverReturns_eq {buffer : ℕ → UInt8} {start : ℕ} (positive : 0 < start)
    (stop : buffer (start - 1) ≠ 13) {bytes : List UInt8}
    (there : slice buffer start (start + bytes.length) = bytes) :
    backOverReturns buffer (start + bytes.length - 1) + 1 =
      start + (bytes.rdropWhile (· = 13)).length := by
  induction bytes using List.reverseRecOn with
  | nil =>
    obtain ⟨before, rfl⟩ : ∃ before, start = before + 1 := ⟨start - 1, by omega⟩
    have at_stop : backOverReturns buffer before = before := by
      cases before with
      | zero => rfl
      | succ before =>
        have other : buffer (before + 1) ≠ 13 := stop
        rw [backOverReturns, if_neg other]
    simp only [List.length_nil, Nat.add_zero, Nat.add_sub_cancel, List.rdropWhile_nil]
    rw [at_stop]
  | append_singleton bytes c ih =>
    rw [List.length_append, List.length_singleton, ← Nat.add_assoc] at there ⊢
    have split : slice buffer start (start + bytes.length) ++
        slice buffer (start + bytes.length) (start + bytes.length).succ =
          slice buffer start (start + bytes.length).succ :=
      slice_append (Nat.le_add_right start bytes.length) (Nat.le_succ (start + bytes.length))
    rw [there] at split
    have one : slice buffer (start + bytes.length) (start + bytes.length).succ =
        [buffer (start + bytes.length)] := by simp [slice]
    rw [one] at split
    obtain ⟨front, back⟩ := List.append_inj' split rfl
    have last : buffer (start + bytes.length) = c := by simpa using back
    rw [Nat.add_sub_cancel]
    obtain ⟨place, at_place⟩ : ∃ place, start + bytes.length = place + 1 :=
      ⟨start + bytes.length - 1, by omega⟩
    rw [List.rdropWhile_concat]
    by_cases returns : c = 13
    · rw [if_pos (by simpa using returns), ← ih front, at_place, backOverReturns,
        if_pos (by rw [← at_place, last, returns]), Nat.add_sub_cancel]
    · rw [if_neg (by simpa using returns), at_place, backOverReturns,
        if_neg (by rw [← at_place, last]; exact returns), ← at_place, List.length_append,
        List.length_singleton, Nat.add_assoc]

/-- Going over line ends. -/
theorem overLineEnds_eq {buffer : ℕ → UInt8} {turns c2 : ℕ} :
    overLineEnds buffer turns c2 =
      c2 + ((slice buffer c2 (c2 + turns)).takeWhile fun c => c = 10 ∨ c = 13).length := by
  induction turns generalizing c2 with
  | zero => simp [overLineEnds]
  | succ turns ih =>
    rw [overLineEnds, slice_cons (by omega : c2 < c2 + (turns + 1))]
    have next : c2 + (turns + 1) = c2 + 1 + turns := by omega
    split
    · rename_i ends
      rw [ih, next, List.takeWhile_cons_of_pos (by simpa using ends), List.length_cons]
      omega
    · rename_i other
      rw [List.takeWhile_cons_of_neg (by simpa using other), List.length_nil, Nat.add_zero]

end BoaIpcam.Relay
