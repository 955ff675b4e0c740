import BoaIpcam.Relay.Writing
import BoaIpcam.Uri.Table

/-!
# Escaped addresses

`req_write_escape_http` writes the address of a page that has moved. The browser sends the address
back, and `unescape_uri` reads it. The room is looked at before each character, and a character
takes up to three bytes: the last ones may reach into the guard band of the loop. A text that is cut
is noticed only when it ends right in front of the guard band.
-/
namespace BoaIpcam.Relay

open Cells

/-! ## One character -/

/-- Two hexadecimal digits are read as they were written. -/
theorem hexToDecimal_intToHex (c : UInt8) :
    hexToDecimal (intToHex (c >>> 4)) (intToHex (c &&& 15)) = c := by
  have table : ∀ n < 256, hexToDecimal (intToHex (UInt8.ofNat n >>> 4))
      (intToHex (UInt8.ofNat n &&& 15)) = UInt8.ofNat n := by
    set_option maxRecDepth 8000 in
    decide
  have entry := table c.toNat c.toNat_lt
  rwa [UInt8.ofNat_toNat] at entry

/-- What is written for a character is printed, and is no blank. -/
theorem escapedHttp_printed (c : UInt8) : ∀ d ∈ escapedHttp c, 33 ≤ d ∧ d ≤ 126 := by
  have table : ∀ n < 256,
      (escapedHttp (UInt8.ofNat n)).all (fun d => 33 ≤ d && d ≤ 126) = true := by
    set_option maxRecDepth 8000 in
    decide
  have entry := table c.toNat c.toNat_lt
  rw [UInt8.ofNat_toNat, List.all_eq_true] at entry
  intro d member
  have printed := entry d member
  simpa using printed

/-- A percent sign and a number sign are escaped. -/
theorem escapedHttp_kept {c : UInt8} (kept : needsEscape c = false) : c ≠ 37 ∧ c ≠ 35 := by
  have table : needsEscape 37 = true ∧ needsEscape 35 = true := by decide
  constructor
  · rintro rfl
    exact Bool.false_ne_true (kept.symm.trans table.1)
  · rintro rfl
    exact Bool.false_ne_true (kept.symm.trans table.2)

/-- The sign in front of a query string stays as it is. -/
theorem escapedHttp_query : escapedHttp 63 = [63] := by decide

/-- At most three bytes are written for a character. -/
theorem length_escapedHttp_le (c : UInt8) : (escapedHttp c).length ≤ 3 := by
  rw [escapedHttp]
  split
  · exact Nat.le_refl 3
  · exact Nat.le_add_left 1 2

/-! ## The way back -/

/-- What is read first of an escaped character is the character. -/
theorem unescape_escapedHttp {c : UInt8} (path : c ≠ 63) (rest : List UInt8) :
    unescape (escapedHttp c ++ rest) = (unescape rest).map (c :: ·) := by
  rw [escapedHttp]
  split
  · rw [List.cons_append, List.cons_append, List.cons_append, List.nil_append, unescape,
      hexToDecimal_intToHex]
  · rename_i kept
    obtain ⟨percent, number⟩ := escapedHttp_kept (Bool.not_eq_true _ ▸ kept)
    rw [List.singleton_append, unescape]
    · exact fun _ _ _ start _ => percent start
    · exact percent
    · exact path
    · exact number

/-- An escaped text is read up to its query string. -/
theorem unescape_flatMap (text : List UInt8) :
    unescape (text.flatMap escapedHttp) = some (text.takeWhile (· ≠ 63)) := by
  induction text with
  | nil => rfl
  | cons c text ih =>
    rw [List.flatMap_cons]
    by_cases query : c = 63
    · rw [query, escapedHttp_query, List.takeWhile_cons_of_neg (by decide)]
      rfl
    · rw [unescape_escapedHttp query, ih, List.takeWhile_cons_of_pos (by simpa using query)]
      rfl

/-- A URI that was escaped has the path of the text. -/
theorem unescapeUri_flatMap {text : List UInt8} (solid : ∀ c ∈ text, c ≠ 0) :
    unescapeUri (text.flatMap escapedHttp) = some (text.takeWhile (· ≠ 63)) := by
  rw [unescapeUri, unescape_flatMap, Option.map_some]
  have whole : (text.takeWhile (· ≠ 63)).takeWhile (· ≠ 0) = text.takeWhile (· ≠ 63) := by
    rw [List.takeWhile_eq_self_iff]
    intro c member
    have inside := (text.takeWhile_prefix _).subset member
    simpa using solid c inside
  rw [whole]

/-! ## The room -/

/-- The front of a text that is escaped with so many bytes left. -/
def escapedFront (escaped : UInt8 → List UInt8) : ℤ → List UInt8 → List UInt8
  | _, [] => []
  | left, c :: text =>
    if 0 < left then c :: escapedFront escaped (left - (escaped c).length) text else []

section

variable {escaped : UInt8 → List UInt8}

/-- It is a front. -/
theorem escapedFront_isPrefix (left : ℤ) (text : List UInt8) :
    escapedFront escaped left text <+: text := by
  induction text generalizing left with
  | nil => exact List.prefix_refl []
  | cons c text ih =>
    rw [escapedFront]
    split
    · exact List.cons_prefix_cons.mpr ⟨rfl, ih _⟩
    · exact List.nil_prefix

/-- Nothing is escaped when nothing is left. -/
theorem escapedFront_of_full {left : ℤ} (full : left ≤ 0) (text : List UInt8) :
    escapedFront escaped left text = [] := by
  cases text with
  | nil => rfl
  | cons c text => rw [escapedFront, if_neg (by omega)]

/-- The last character begins where there is room. -/
theorem length_escapedFront_le {width : ℕ} (narrow : ∀ c, (escaped c).length ≤ width + 1)
    {left : ℤ} (room : 0 ≤ left) (text : List UInt8) :
    ((escapedFront escaped left text).flatMap escaped).length ≤ left + width := by
  induction text generalizing left with
  | nil =>
    rw [escapedFront, List.flatMap_nil, List.length_nil]
    omega
  | cons c text ih =>
    rw [escapedFront]
    split
    · rename_i going
      have wide := narrow c
      rw [List.flatMap_cons, List.length_append]
      by_cases more : 0 ≤ left - (escaped c).length
      · have rest := ih more
        omega
      · rw [escapedFront_of_full (by omega), List.flatMap_nil, List.length_nil]
        omega
    · rw [List.flatMap_nil, List.length_nil]
      omega

/-- A text is cut only when nothing is left. -/
theorem left_le_of_cut {left : ℤ} {text : List UInt8}
    (cut : escapedFront escaped left text ≠ text) :
    left ≤ ((escapedFront escaped left text).flatMap escaped).length := by
  induction text generalizing left with
  | nil => exact absurd rfl cut
  | cons c text ih =>
    rw [escapedFront] at cut ⊢
    split at cut
    · rename_i going
      rw [if_pos going, List.flatMap_cons, List.length_append]
      have rest := ih fun same => cut (congrArg (c :: ·) same)
      omega
    · rename_i full
      rw [if_neg full]
      omega

/-- The loop writes a front of a text that is not in the buffer. -/
theorem escapeLoop_own (written : ∀ c, escaped c ≠ []) {whole text : List UInt8} {i turns dest : ℕ}
    {left : ℤ} {buffer : ℕ → UInt8} (solid : ∀ c ∈ text, c ≠ 0) (rest : whole.drop i = text)
    (enough : left ≤ turns) :
    escapeLoop escaped (.own whole) turns buffer i dest left =
      (put buffer dest ((escapedFront escaped left text).flatMap escaped),
        dest + ((escapedFront escaped left text).flatMap escaped).length,
        left - ((escapedFront escaped left text).flatMap escaped).length) := by
  induction text generalizing i turns dest left buffer with
  | nil =>
    have ends : (Text.own whole).byte buffer i = 0 := by
      rw [Text.byte, List.getD_eq_default _ _ (List.drop_eq_nil_iff.mp rest)]
    rw [escapedFront, List.flatMap_nil, put_nil, List.length_nil]
    cases turns with
    | zero => simp [escapeLoop]
    | succ turns =>
      rw [escapeLoop, if_neg fun going => going.1 ends]
      simp
  | cons c text ih =>
    have first : (Text.own whole).byte buffer i = c := by
      have head : (whole.drop i)[0]? = some c := by rw [rest]; rfl
      rw [List.getElem?_drop, Nat.add_zero] at head
      rw [Text.byte, List.getD_eq_getElem?_getD, head, Option.getD_some]
    have next : whole.drop (i + 1) = text := by
      rw [← List.drop_drop, rest]
      rfl
    have wide : 0 < (escaped c).length := List.length_pos_iff.mpr (written c)
    by_cases room : 0 < left
    · obtain ⟨turns, rfl⟩ : ∃ more, turns = more + 1 := ⟨turns - 1, by omega⟩
      have going : (Text.own whole).byte buffer i ≠ 0 ∧ 0 < left :=
        ⟨first ▸ solid c List.mem_cons_self, room⟩
      rw [escapeLoop, if_pos going, first]
      rw [ih (fun d member => solid d (List.mem_cons_of_mem c member)) next (by omega)]
      rw [escapedFront, if_pos room, List.flatMap_cons, put_put, List.length_append]
      simp only [Prod.mk.injEq, true_and]
      omega
    · rw [escapedFront_of_full (by omega), List.flatMap_nil, put_nil, List.length_nil]
      cases turns with
      | zero => simp [escapeLoop]
      | succ turns =>
        rw [escapeLoop, if_neg fun going => room going.2]
        simp

/-- The two functions that escape write a front of a text, inside the buffer. The text is cut only
when the room in front of the guard band is used up. -/
theorem reqWriteEscape_own (written : ∀ c, escaped c ≠ []) {guard : ℕ}
    (narrow : ∀ c, (escaped c).length ≤ guard + 1) {r : Request} {text : List UInt8}
    (solid : ∀ c ∈ text, c ≠ 0) (inside : r.bufferEnd ≤ bufferSize) :
    ∃ front, front <+: text ∧
      r.bufferEnd + (front.flatMap escaped).length ≤ bufferSize ∧
      (front ≠ text → bufferSize ≤ r.bufferEnd + (front.flatMap escaped).length + guard) ∧
      (reqWriteEscape escaped guard r (.own text)).buffer =
        put r.buffer r.bufferEnd (front.flatMap escaped) ∧
      (reqWriteEscape escaped guard r (.own text)).bufferEnd =
        r.bufferEnd + (front.flatMap escaped).length ∧
      ((reqWriteEscape escaped guard r (.own text)).status = .dead ↔ r.status = .dead ∨
        r.bufferEnd + (front.flatMap escaped).length + guard = bufferSize) := by
  have loop : escapeLoop escaped (.own text) ((bufferSize : ℤ) - r.bufferEnd - guard).toNat
      r.buffer 0 r.bufferEnd ((bufferSize : ℤ) - r.bufferEnd - guard) = _ :=
    escapeLoop_own written solid List.drop_zero (by omega)
  have front := @escapedFront_isPrefix escaped ((bufferSize : ℤ) - r.bufferEnd - guard) text
  have cut := @left_le_of_cut escaped ((bufferSize : ℤ) - r.bufferEnd - guard) text
  have length : r.bufferEnd + ((escapedFront escaped ((bufferSize : ℤ) - r.bufferEnd - guard)
      text).flatMap escaped).length ≤ bufferSize := by
    by_cases room : 0 ≤ (bufferSize : ℤ) - r.bufferEnd - guard
    · have bound := length_escapedFront_le narrow room text
      omega
    · rw [escapedFront_of_full (by omega), List.flatMap_nil, List.length_nil]
      omega
  generalize escapedFront escaped ((bufferSize : ℤ) - r.bufferEnd - guard) text = sent
    at loop front cut length
  refine ⟨sent, front, length, ?_, ?_, ?_, ?_⟩
  · intro short
    have full := cut short
    omega
  · rw [reqWriteEscape]
    simp only [loop]
    split
    · rfl
    · rfl
  · rw [reqWriteEscape]
    simp only [loop]
    split
    · rfl
    · rfl
  · rw [reqWriteEscape]
    simp only [loop]
    split
    · rename_i used
      have full : r.bufferEnd + (sent.flatMap escaped).length + guard = bufferSize := by omega
      exact iff_of_true rfl (.inr full)
    · rename_i other
      have apart : r.bufferEnd + (sent.flatMap escaped).length + guard ≠ bufferSize := by omega
      exact (or_iff_left apart).symm

end

/-! ## The address of a page -/

/-- What is written for an address is the escaping of a front of it: printed characters, which are
read back as the path of that front. Nothing else is written, and nothing behind the buffer. The
address is cut only when the room in front of the guard band is used up, and the request is given up
exactly when the last byte is the one in front of the guard band. -/
theorem location_exact {r : Request} {url : List UInt8} (solid : ∀ c ∈ url, c ≠ 0)
    (inside : r.bufferEnd ≤ bufferSize) :
    ∃ front, front <+: url ∧
      slice (reqWriteEscapeHttp r (.own url)).buffer r.bufferEnd
        (reqWriteEscapeHttp r (.own url)).bufferEnd = front.flatMap escapedHttp ∧
      (∀ cell, cell < r.bufferEnd ∨ bufferSize ≤ cell →
        (reqWriteEscapeHttp r (.own url)).buffer cell = r.buffer cell) ∧
      (reqWriteEscapeHttp r (.own url)).bufferEnd ≤ bufferSize ∧
      (∀ c ∈ front.flatMap escapedHttp, 33 ≤ c ∧ c ≤ 126) ∧
      unescapeUri (front.flatMap escapedHttp) = some (front.takeWhile (· ≠ 63)) ∧
      (front ≠ url → bufferSize ≤ (reqWriteEscapeHttp r (.own url)).bufferEnd + 3) ∧
      ((reqWriteEscapeHttp r (.own url)).status = .dead ↔
        r.status = .dead ∨ (reqWriteEscapeHttp r (.own url)).bufferEnd + 3 = bufferSize) := by
  have narrow : ∀ c, (escapedHttp c).length ≤ 3 + 1 := by
    intro c
    have three := length_escapedHttp_le c
    omega
  obtain ⟨front, isFront, length, cut, buffer, bufferEnd, status⟩ :=
    reqWriteEscape_own escapedHttp_ne_nil narrow solid inside
  refine ⟨front, isFront, ?_, ?_, ?_, ?_, ?_, ?_, ?_⟩
  · rw [reqWriteEscapeHttp, buffer, bufferEnd, slice_put]
  · intro cell beside
    rw [reqWriteEscapeHttp, buffer]
    rcases beside with before | after
    · exact put_before before
    · exact put_after (by omega)
  · rw [reqWriteEscapeHttp, bufferEnd]
    exact length
  · intro c member
    obtain ⟨d, -, written⟩ := List.mem_flatMap.mp member
    exact escapedHttp_printed d c written
  · exact unescapeUri_flatMap fun c member => solid c (isFront.subset member)
  · rw [reqWriteEscapeHttp, bufferEnd]
    exact cut
  · rw [reqWriteEscapeHttp, bufferEnd]
    exact status

/-- A request with nothing in its buffer. -/
def emptyRequest : Request where
  method := .get
  simple := false
  isCgi := false
  status := .write
  cgiStatus := .parse
  keepalive := .inactive
  kacount := 0
  responseStatus := 0
  exportFile := none
  buffer := fun _ => 0
  bufferStart := 0
  bufferEnd := 0
  headerLine := 0
  headerEnd := 0
  dataMem := []
  filesize := 0
  extraSize := 0
  filepos := 0

/-- The address of a page with a blank in its path. -/
theorem location_exact_blank : ∃ front, front <+: ascii "/a b?c" ∧
    unescapeUri (slice (reqWriteEscapeHttp emptyRequest (.own (ascii "/a b?c"))).buffer 0
      (reqWriteEscapeHttp emptyRequest (.own (ascii "/a b?c"))).bufferEnd) =
        some (front.takeWhile (· ≠ 63)) := by
  have table : (ascii "/a b?c").all (fun c => c != 0) = true := by decide
  have solid : ∀ c ∈ ascii "/a b?c", c ≠ 0 :=
    fun c member => bne_iff_ne.mp (List.all_eq_true.mp table c member)
  have inside : emptyRequest.bufferEnd ≤ bufferSize := Nat.zero_le _
  obtain ⟨front, isFront, sent, -, -, -, back, -⟩ := location_exact solid inside
  refine ⟨front, isFront, ?_⟩
  rw [← back, ← sent]
  rfl

end BoaIpcam.Relay
