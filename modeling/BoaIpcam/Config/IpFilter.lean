import BoaIpcam.CString
import BoaIpcam.Lib.Run
import Mathlib.Logic.Function.Basic

/-!
# The tables of the IP filter

`add_ipfilterpolicy` and `del_ipfilterpolicy` of `appro_api.c` keep a table of address ranges to
allow and one of ranges to deny. A range is two `struct in_addr`; a slot whose two words are zero
is free. The end points are ordered by their words, which the processor reads with the first byte
of the address as the lowest. The device service applies a new range and clears a deleted one; it
can fail, and a new range is in its slot before it is asked.
-/
namespace BoaIpcam.IpFilter

open TransitionSystem

/-! ## Addresses -/

/-- `struct in_addr`: the bytes of an address in the order of the dotted notation. -/
structure InAddr where
  /-- The first byte. -/
  a : UInt8
  /-- The second byte. -/
  b : UInt8
  /-- The third byte. -/
  c : UInt8
  /-- The last byte. -/
  d : UInt8
deriving DecidableEq, Repr

namespace InAddr

/-- `s_addr`, the word the processor reads: the first byte is the lowest. -/
def sAddr (addr : InAddr) : Nat :=
  addr.a.toNat + 256 * addr.b.toNat + 65536 * addr.c.toNat + 16777216 * addr.d.toNat

/-- The place of the address in the dotted order: the first byte is the highest. -/
def dotted (addr : InAddr) : Nat :=
  16777216 * addr.a.toNat + 65536 * addr.b.toNat + 256 * addr.c.toNat + addr.d.toNat

/-- The address with a place in the dotted order. -/
def ofNat (value : Nat) : InAddr :=
  ⟨UInt8.ofNat (value / 16777216), UInt8.ofNat (value / 65536), UInt8.ofNat (value / 256),
    UInt8.ofNat value⟩

end InAddr

/-- The value of digits in a base, none when there is no digit or one is not of the base. -/
def atonDigits (base : Nat) (text : List UInt8) : Option Nat :=
  if text = [] then none
  else text.foldlM (fun value c =>
    let digit :=
      if 48 ≤ c ∧ c ≤ 57 then c.toNat - 48
      else if 97 ≤ toLower c ∧ toLower c ≤ 102 then (toLower c).toNat - 87
      else 16
    if digit < base then some (value * base + digit) else none) 0

/-- A number of the numbers-and-dots notation: hexadecimal, octal or decimal. -/
def atonPart : List UInt8 → Option Nat
  | 48 :: 120 :: rest => atonDigits 16 rest
  | 48 :: 88 :: rest => atonDigits 16 rest
  | 48 :: rest => if rest = [] then some 0 else atonDigits 8 rest
  | text => atonDigits 10 text

/-- `inet_aton`: up to four numbers with dots between them; the last one fills the bytes that are
left. White space ends the text. -/
def inetAton (text : List UInt8) : Option InAddr :=
  match ((text.takeWhile fun c => !isSpace c).splitOn 46).mapM atonPart with
  | some [w] => if w < 4294967296 then some (.ofNat w) else none
  | some [x, w] => if x < 256 ∧ w < 16777216 then some (.ofNat (x * 16777216 + w)) else none
  | some [x, y, w] =>
    if x < 256 ∧ y < 256 ∧ w < 65536 then some (.ofNat (x * 16777216 + y * 65536 + w)) else none
  | some [x, y, z, w] =>
    if x < 256 ∧ y < 256 ∧ z < 256 ∧ w < 256 then
      some (.ofNat (x * 16777216 + y * 65536 + z * 256 + w))
    else none
  | _ => none

example : inetAton (ascii "192.168.0x1.012 x") = some ⟨192, 168, 1, 10⟩ := by decide

/-! ## The tables -/

/-- `IP_FILTER_ALLOW` and `IP_FILTER_DENY`. -/
inductive Policy where
  | allow
  | deny
deriving DecidableEq, Repr

/-- The values of the policies. -/
def Policy.code : Policy → Nat
  | .allow => 1
  | .deny => 0

/-- `IP_FILTER_TABLE`: a slot of a table. -/
structure Rule where
  /-- The lower end. -/
  start : InAddr
  /-- The upper end. -/
  stop : InAddr
deriving DecidableEq, Repr

/-- A slot with two zero words is taken for a free one. -/
def Rule.free (rule : Rule) : Bool := rule.start.sAddr = 0 ∧ rule.stop.sAddr = 0

/-- The slot after it is cleared. -/
def Rule.clear : Rule := ⟨⟨0, 0, 0, 0⟩, ⟨0, 0, 0, 0⟩⟩

/-- The slots of the two tables. -/
abbrev Tables := Policy → Nat → Rule

/-- Write a slot. -/
def put (tables : Tables) (policy : Policy) (idx : Nat) (rule : Rule) : Tables :=
  Function.update tables policy (Function.update (tables policy) idx rule)

/-- The slot that is written. -/
@[simp] theorem put_self (tables : Tables) (policy : Policy) (idx : Nat) (rule : Rule) :
    put tables policy idx rule policy idx = rule := by
  simp [put]

/-- The other slots. -/
theorem put_other (tables : Tables) {policy other : Policy} {idx i : Nat} (rule : Rule)
    (apart : ¬(other = policy ∧ i = idx)) : put tables policy idx rule other i = tables other i := by
  by_cases same : other = policy
  · subst same
    rw [put, Function.update_self, Function.update_of_ne (fun equal => apart ⟨rfl, equal⟩)]
  · rw [put, Function.update_of_ne same]

/-- The rule strings. -/
def policyOf (rule : List UInt8) : Option Policy :=
  if StrCaseEq rule (ascii "allow") then some .allow
  else if StrCaseEq rule (ascii "deny") then some .deny
  else none

/-- The parts of the value of `add_ipfilterpolicy`. -/
structure AddText where
  /-- The text of the number. -/
  rule : List UInt8
  /-- The text of the one end. -/
  start : List UInt8
  /-- The text of the other end. -/
  stop : List UInt8
deriving DecidableEq, Repr

/-- The cuts of `add_ipfilterpolicy`: a NUL replaces the first colon and the first dash, in
whatever order they stand. -/
def addText (value : List UInt8) : Option AddText := do
  let colon ← value.idxOf? 58
  let dash ← value.idxOf? 45
  let cut := (value.set colon 0).set dash 0
  let string := fun pos => (cut.drop pos).takeWhile (· ≠ 0)
  some ⟨string 0, string (colon + 1), string (dash + 1)⟩

/-- What the request asks for, when it is well formed: the end points and the table. The strings
are copied to arrays of 16 and 8 bytes first. -/
def addRequest (value : List UInt8) : Option (InAddr × InAddr × Policy) := do
  let text ← addText value
  let start ← inetAton (text.start.take 15)
  let stop ← inetAton (text.stop.take 15)
  let policy ← policyOf (text.rule.take 7)
  some (start, stop, policy)

/-- The end points as they are written in the request. -/
def endPoints (value : List UInt8) : Option (InAddr × InAddr) := do
  let text ← addText value
  let start ← inetAton text.start
  let stop ← inetAton text.stop
  some (start, stop)

section Commands

-- `MAX_IPFILTER_NUM`.
variable (maxNum : Nat)

/-- The search for an empty slot. -/
def emptySlot (table : Nat → Rule) : Option Nat :=
  (List.range maxNum).find? fun idx => (table idx).free

/-- The range as it is stored: with the lower word first. -/
def orderedRule (start stop : InAddr) : Rule :=
  if stop.sAddr < start.sAddr then ⟨stop, start⟩ else ⟨start, stop⟩

/-- `add_ipfilterpolicy`: the tables and whether the answer is OK. The service may accept the new
slot or fail. -/
def addIpfilterpolicy (tables : Tables) (value : List UInt8) (accepted : Bool) : Tables × Bool :=
  match addRequest value with
  | none => (tables, false)
  | some (start, stop, policy) =>
    match emptySlot maxNum (tables policy) with
    | none => (tables, false)
    | some idx => (put tables policy idx (orderedRule start stop), accepted)

/-- The service clears the slot it is told, the table in the upper half of the word. -/
def ipfilterDel (told : Nat) (tables : Tables) : Tables := fun policy idx =>
  if told / 65536 = policy.code ∧ told % 65536 = idx then .clear else tables policy idx

/-- The number behind the colon in `del_ipfilterpolicy`, an unsigned word. -/
def delIndex (value : List UInt8) (colon : Nat) : Nat :=
  (atoi (value.drop (colon + 1)) % 4294967296).toNat

/-- `del_ipfilterpolicy`; none when the rule string does not fit its array of 8 bytes. -/
def delIpfilterpolicy (tables : Tables) (value : List UInt8) (accepted : Bool) :
    Option (Tables × Bool) :=
  match value.idxOf? 58 with
  | none => some (tables, false)
  | some colon =>
    let idx := delIndex value colon
    if maxNum < (idx + 1) % 4294967296 then some (tables, false)
    else if 8 ≤ colon then none
    else
      match policyOf (value.take colon) with
      | none => some (tables, false)
      | some policy =>
        if (tables policy idx).free then some (tables, false)
        else if accepted then some (ipfilterDel (policy.code * 65536 ||| idx) tables, true)
        else some (tables, false)

end Commands

/-! ## What the commands do -/

section Effects

variable {maxNum : Nat} {tables : Tables} {value : List UInt8} {accepted : Bool}

/-- An add fills one free slot of the table it names and answers what the service says, or it
changes nothing and refuses. -/
theorem addIpfilterpolicy_cases (maxNum : Nat) (tables : Tables) (value : List UInt8)
    (accepted : Bool) :
    (∃ start stop policy idx, addRequest value = some (start, stop, policy) ∧ idx < maxNum ∧
      (tables policy idx).free = true ∧ emptySlot maxNum (tables policy) = some idx ∧
      addIpfilterpolicy maxNum tables value accepted =
        (put tables policy idx (orderedRule start stop), accepted)) ∨
    addIpfilterpolicy maxNum tables value accepted = (tables, false) := by
  unfold addIpfilterpolicy
  cases asked : addRequest value with
  | none => exact .inr rfl
  | some request =>
    obtain ⟨start, stop, policy⟩ := request
    cases found : emptySlot maxNum (tables policy) with
    | none => exact .inr (by simp only [found])
    | some idx =>
      have below := List.mem_range.mp (List.mem_of_find?_eq_some found)
      have free := List.find?_some found
      exact .inl ⟨start, stop, policy, idx, rfl, below, free, found, by simp only [found]⟩

/-- A delete clears slots or changes nothing. -/
theorem delIpfilterpolicy_cases {result : Tables × Bool}
    (done : delIpfilterpolicy maxNum tables value accepted = some result) :
    (∃ told, result.1 = ipfilterDel told tables) ∨ result.1 = tables := by
  unfold delIpfilterpolicy at done
  split at done
  · cases done
    exact .inr rfl
  dsimp only at done
  split at done
  · cases done
    exact .inr rfl
  split at done
  · cases done
  split at done
  · cases done
    exact .inr rfl
  split at done
  · cases done
    exact .inr rfl
  split at done
  · cases done
    exact .inl ⟨_, rfl⟩
  · cases done
    exact .inr rfl

/-- A delete breaks its array exactly when it is within the table and the rule string is long. -/
theorem delIpfilterpolicy_eq_none :
    delIpfilterpolicy maxNum tables value accepted = none ↔
      ∃ colon, value.idxOf? 58 = some colon ∧
        (delIndex value colon + 1) % 4294967296 ≤ maxNum ∧ 8 ≤ colon := by
  unfold delIpfilterpolicy
  cases value.idxOf? 58 with
  | none => simp
  | some colon =>
    simp only [Option.some_inj, exists_eq_left']
    by_cases outside : maxNum < (delIndex value colon + 1) % 4294967296
    · simp only [if_pos outside, reduceCtorEq, false_iff]
      omega
    by_cases long : 8 ≤ colon
    · simp only [if_neg outside, if_pos long, true_iff]
      omega
    · simp only [if_neg outside, if_neg long]
      apply iff_of_false
      · split
        · simp
        split
        · simp
        split <;> simp
      · exact fun both => long both.2

/-- An ordered range is occupied unless both end points are zero. -/
theorem orderedRule_free (start stop : InAddr) :
    (orderedRule start stop).free = true ↔ start.sAddr = 0 ∧ stop.sAddr = 0 := by
  unfold orderedRule
  split <;> simp [Rule.free, and_comm]

end Effects

/-! ## Ranges between the end points of the requests -/

/-- An address lies between two others in the dotted order. -/
def Between (left right addr : InAddr) : Prop :=
  left.dotted ≤ addr.dotted ∧ addr.dotted ≤ right.dotted ∨
    right.dotted ≤ addr.dotted ∧ addr.dotted ≤ left.dotted

/-- The tables with the end points that stand in the requests that occupied the slots. -/
structure Traced where
  /-- The two tables. -/
  tables : Tables
  /-- The ends that were asked for, by table and slot. -/
  origin : Policy → Nat → Option (InAddr × InAddr)

/-- Both tables are empty. -/
def Traced.empty : Traced := ⟨fun _ _ => .clear, fun _ _ => none⟩

/-- A command with what the service answers. -/
inductive Command where
  | add (value : List UInt8) (accepted : Bool)
  | del (value : List UInt8) (accepted : Bool)

section Runs

variable (maxNum : Nat)

/-- The tables after a command; a delete that breaks its array leaves nothing to say. -/
def Command.apply (tables : Tables) : Command → Tables
  | .add value accepted => (addIpfilterpolicy maxNum tables value accepted).1
  | .del value accepted =>
    ((delIpfilterpolicy maxNum tables value accepted).map Prod.fst).getD tables

/-- The end points in the request, if it is to add a range. -/
def Command.endPoints : Command → Option (InAddr × InAddr)
  | .add value _ => IpFilter.endPoints value
  | .del _ _ => none

/-- The step with the trace: a slot that becomes occupied has the end points of this request. -/
def Traced.step (s : Traced) (command : Command) : Traced where
  tables := command.apply maxNum s.tables
  origin := fun policy idx =>
    if (s.tables policy idx).free then command.endPoints else s.origin policy idx

/-- Every occupied slot holds a range whose start is not behind its end and which has exactly the
addresses between the end points of the request that occupied it. -/
def RangesHeld (s : Traced) : Prop :=
  ∀ policy idx, idx < maxNum → (s.tables policy idx).free = false →
    (s.tables policy idx).start.dotted ≤ (s.tables policy idx).stop.dotted ∧
    ∃ left right, s.origin policy idx = some (left, right) ∧
      ∀ addr : InAddr, (s.tables policy idx).start.dotted ≤ addr.dotted ∧
        addr.dotted ≤ (s.tables policy idx).stop.dotted ↔ Between left right addr

/-- An add that is answered OK occupies one free slot of the table it names and changes no other;
one that is not answered OK changes nothing. A delete stays within its array. -/
def Answered (tables : Tables) : Command → Prop
  | .add value accepted =>
    let result := addIpfilterpolicy maxNum tables value accepted
    (result.2 = true → ∃ text policy idx, addText value = some text ∧
      policyOf (text.rule.take 7) = some policy ∧ idx < maxNum ∧
      (tables policy idx).free = true ∧ (result.1 policy idx).free = false ∧
      ∀ other i, ¬(other = policy ∧ i = idx) → result.1 other i = tables other i) ∧
    (result.2 = false → result.1 = tables)
  | .del value accepted => (delIpfilterpolicy maxNum tables value accepted).isSome = true

/-- What the claim asks of a step. -/
def Kept (s : Traced) (command : Command) : Prop :=
  RangesHeld maxNum (s.step maxNum command) ∧ Answered maxNum s.tables command

/-- When a step keeps it. An add that finds a slot for its range must be accepted by the service,
its end points must not both be zero, the order of their words must be the dotted order, and they
must be what the texts say before they are cut to 15 bytes. The rule string of a delete within
the table must fit its array. -/
def Meets (s : Traced) : Command → Prop
  | .add value accepted =>
    ∀ start stop policy idx, addRequest value = some (start, stop, policy) →
      emptySlot maxNum (s.tables policy) = some idx →
      accepted = true ∧ (start.sAddr ≠ 0 ∨ stop.sAddr ≠ 0) ∧
      (stop.sAddr < start.sAddr ↔ stop.dotted < start.dotted) ∧
      endPoints value = some (start, stop)
  | .del value _ =>
    ∀ colon, value.idxOf? 58 = some colon →
      colon < 8 ∨ maxNum < (delIndex value colon + 1) % 4294967296

variable {maxNum}

/-- A range ordered in the dotted order has the addresses between its end points. -/
theorem orderedRule_between {start stop : InAddr}
    (order : stop.sAddr < start.sAddr ↔ stop.dotted < start.dotted) :
    (orderedRule start stop).start.dotted ≤ (orderedRule start stop).stop.dotted ∧
    ∀ addr : InAddr, (orderedRule start stop).start.dotted ≤ addr.dotted ∧
      addr.dotted ≤ (orderedRule start stop).stop.dotted ↔ Between start stop addr := by
  unfold orderedRule Between
  by_cases swapped : stop.sAddr < start.sAddr
  · have below := order.mp swapped
    rw [if_pos swapped]
    exact ⟨by simp only; omega, fun addr => by simp only; omega⟩
  · have above := order.not.mp swapped
    rw [if_neg swapped]
    exact ⟨by simp only; omega, fun addr => by simp only; omega⟩

/-- Slots that are cleared or kept hold their ranges. -/
theorem RangesHeld.of_kept {s next : Traced} (held : RangesHeld maxNum s)
    (kept : ∀ policy idx, (next.tables policy idx).free = false →
      next.tables policy idx = s.tables policy idx ∧ next.origin policy idx = s.origin policy idx) :
    RangesHeld maxNum next := by
  intro policy idx below occupied
  obtain ⟨same, origin⟩ := kept policy idx occupied
  rw [same] at occupied ⊢
  rw [origin]
  exact held policy idx below occupied

/-- An add that changes nothing keeps the ranges. -/
theorem RangesHeld.of_same {s : Traced} (held : RangesHeld maxNum s) {command : Command}
    (same : command.apply maxNum s.tables = s.tables) :
    RangesHeld maxNum (s.step maxNum command) := by
  refine held.of_kept fun policy idx occupied => ?_
  change (command.apply maxNum s.tables policy idx).free = false at occupied
  rw [same] at occupied
  refine ⟨congrFun (congrFun same policy) idx, ?_⟩
  simp [Traced.step, occupied]

/-- An add that meets the condition keeps the ranges and answers what it does. -/
theorem kept_add {s : Traced} (held : RangesHeld maxNum s) {value : List UInt8} {accepted : Bool}
    (meets : Meets maxNum s (.add value accepted)) : Kept maxNum s (.add value accepted) := by
  rcases addIpfilterpolicy_cases maxNum s.tables value accepted with
    ⟨start, stop, policy, idx, asked, below, free, found, result⟩ | result
  · obtain ⟨yes, occupied, order, written⟩ := meets start stop policy idx asked found
    have filled : (orderedRule start stop).free = false := by
      rw [Bool.eq_false_iff, ne_eq, orderedRule_free]
      omega
    have after : (s.step maxNum (.add value accepted)).tables =
        put s.tables policy idx (orderedRule start stop) := by
      rw [Traced.step, Command.apply, result]
    constructor
    · intro other i bound busy
      rw [after] at busy ⊢
      by_cases here : other = policy ∧ i = idx
      · obtain ⟨rfl, rfl⟩ := here
        rw [put_self]
        obtain ⟨least, between⟩ := orderedRule_between order
        refine ⟨least, start, stop, ?_, between⟩
        rw [Traced.step, Command.endPoints]
        simp only [free, if_pos, written]
      · rw [put_other _ _ here] at busy ⊢
        obtain ⟨least, left, right, origin, between⟩ := held other i bound busy
        refine ⟨least, left, right, ?_, between⟩
        simp only [Traced.step, busy, Bool.false_eq_true, if_false, origin]
    · subst yes
      simp only [Answered, result]
      refine ⟨fun _ => ?_, by simp⟩
      obtain ⟨text, cut, rest⟩ := Option.bind_eq_some_iff.mp asked
      obtain ⟨_, -, rest⟩ := Option.bind_eq_some_iff.mp rest
      obtain ⟨_, -, rest⟩ := Option.bind_eq_some_iff.mp rest
      obtain ⟨named, rule, rest⟩ := Option.bind_eq_some_iff.mp rest
      cases rest
      refine ⟨text, policy, idx, cut, rule, below, free, by rw [put_self, filled], ?_⟩
      exact fun other i apart => put_other _ _ apart
  · constructor
    · exact held.of_same (by rw [Command.apply, result])
    · simp only [Answered, result]
      simp

/-- A delete keeps the ranges. -/
theorem kept_del {s : Traced} (held : RangesHeld maxNum s) {value : List UInt8} {accepted : Bool}
    (meets : Meets maxNum s (.del value accepted)) : Kept maxNum s (.del value accepted) := by
  cases done : delIpfilterpolicy maxNum s.tables value accepted with
  | none =>
    obtain ⟨colon, found, inside, long⟩ := delIpfilterpolicy_eq_none.mp done
    have fits := meets colon found
    omega
  | some result =>
    refine ⟨?_, by rw [Answered, done]; rfl⟩
    have after : (Command.del value accepted).apply maxNum s.tables = result.1 := by
      rw [Command.apply, done]
      rfl
    rcases delIpfilterpolicy_cases done with ⟨told, cleared⟩ | same
    · refine held.of_kept fun policy idx busy => ?_
      change ((Command.del value accepted).apply maxNum s.tables policy idx).free = false at busy
      have slot : (s.step maxNum (.del value accepted)).tables policy idx =
          if told / 65536 = policy.code ∧ told % 65536 = idx then .clear
          else s.tables policy idx := by
        rw [Traced.step, after, cleared]
        rfl
      rw [after, cleared, ipfilterDel] at busy
      by_cases here : told / 65536 = policy.code ∧ told % 65536 = idx
      · rw [if_pos here] at busy
        exact absurd busy (by decide)
      · rw [if_neg here] at busy slot
        refine ⟨slot, ?_⟩
        simp only [Traced.step, busy, Bool.false_eq_true, if_false]
    · exact held.of_same (after.trans same)

/-- In every run from empty tables in which each command meets the condition in the state that it
finds, every occupied slot holds the range between the end points of the request that occupied
it, an add that is answered OK occupies one free slot of its table, and one that is refused
changes nothing. -/
theorem ipFilter_ranges_kept (maxNum : Nat) (commands : List Command)
    (meets : Throughout (Traced.step maxNum) (Meets maxNum) .empty commands) :
    Throughout (Traced.step maxNum) (Kept maxNum) .empty commands := by
  refine Throughout.of_invariant (RangesHeld maxNum) ?_ ?_ meets
  · intro s command held met
    have kept : Kept maxNum s command := by
      cases command with
      | add value accepted => exact kept_add held met
      | del value accepted => exact kept_del held met
    exact ⟨kept, kept.1⟩
  · intro policy idx _ busy
    exact absurd (show Rule.clear.free = false from busy) (by decide)

/-- A range of addresses is added, and the first rule of the other table is deleted. -/
theorem ipFilter_ranges_kept_small :
    Throughout (Traced.step 4) (Kept 4) .empty
      [.add (ascii "allow:10.0.0.1-20.0.0.2") true, .del (ascii "deny:0") true] :=
  ipFilter_ranges_kept 4 _ (by
    refine ⟨?_, ?_, trivial⟩
    · intro start stop policy idx asked _
      have read : addRequest (ascii "allow:10.0.0.1-20.0.0.2") =
          some (⟨10, 0, 0, 1⟩, ⟨20, 0, 0, 2⟩, .allow) := by decide
      obtain ⟨rfl, rfl, rfl⟩ : start = ⟨10, 0, 0, 1⟩ ∧ stop = ⟨20, 0, 0, 2⟩ ∧ policy = .allow := by
        simpa [read, eq_comm] using asked
      decide
    · intro colon found
      have place : (ascii "deny:0").idxOf? 58 = some 4 := by decide
      rw [place] at found
      cases found
      decide)

/-- The range from 10.0.0.2 to 10.0.1.1 is stored with its end points exchanged: as words of the
processor the second is the lower. -/
theorem ipFilter_range_reversed :
    ¬Throughout (Traced.step 4) (Kept 4) .empty [.add (ascii "allow:10.0.0.2-10.0.1.1") true] := by
  rintro ⟨⟨held, -⟩, -⟩
  have least := (held .allow 0 (by decide) (by decide)).1
  exact absurd least (by decide)

end Runs

end BoaIpcam.IpFilter
