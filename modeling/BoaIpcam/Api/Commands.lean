import BoaIpcam.Numeral
import BoaIpcam.Page.Tags

/-!
# Commands of `/vb.htm`

`http_run_command` of `appro_api.c` runs the arguments of a request as commands and collects
their replies in the buffer of the request. `req_write` and `req_copy` of `buffer.c` refuse what
does not fit that buffer. The handlers append with `sprintf` at `req_bufptr`, which does not look at
it: what they print is the status, the name of the command and a text, of which they print as
much as the configuration holds. So the replies stay in the buffer exactly when their lengths, which
are known before the first of them is written, add up to no more than its size.
-/
namespace BoaIpcam

/-! ## The buffer of the response -/

/-- The response: the bytes before `buffer_end`, whether the status is `DEAD`, and the end of all
that was ever written to `buffer`. -/
structure Response where
  /-- The bytes before `buffer_end`. -/
  text : List UInt8
  /-- The status is `DEAD`. -/
  dead : Bool
  /-- The end of what was written. -/
  reach : Nat
deriving DecidableEq, Repr

namespace Response

/-- `BUFFER_SIZE`; the array `buffer` has one byte more. -/
def bufferSize : Nat := 8192

/-- `buffer_end`. -/
def bufferEnd (response : Response) : Nat := response.text.length

/-- The response of a new request. -/
def empty : Response := ⟨[], false, 0⟩

/-- `req_copy`. -/
def reqCopy (response : Response) (data : List UInt8) : Response :=
  if data = [] ∨ response.dead then response
  else if bufferSize < response.bufferEnd + data.length then { response with dead := true }
  else
    { response with
      text := response.text ++ data
      reach := max response.reach (response.bufferEnd + data.length) }

/-- `req_write`. -/
def reqWrite (response : Response) (msg : List UInt8) : Response := response.reqCopy msg

/-- `req->buffer_end += sprintf(req_bufptr(req), …)`: the text is written with its NUL. -/
def sprintf (response : Response) (text : List UInt8) : Response :=
  { response with
    text := response.text ++ text
    reach := max response.reach (response.bufferEnd + text.length + 1) }

end Response

/-! ## Texts -/

/-- `OPTION_OK`, `OPTION_NG`, `OPTION_NS`, `OPTION_UA` and `OPTION_UW`. -/
inductive OptionStatus where
  | ok
  | ng
  | ns
  | ua
  | uw
deriving DecidableEq, Repr

/-- The text of a status. -/
def OptionStatus.text : OptionStatus → List UInt8
  | .ok => ascii "OK "
  | .ng => ascii "NG "
  | .ns => ascii "NS "
  | .ua => ascii "UA "
  | .uw => ascii "UW "

/-- What a handler prints with one `sprintf`: a status, the name of the command (or its value, in
`paratest`) and what stands behind it, or a text alone. -/
inductive OptionText where
  | named (status : OptionStatus) (name rest : List UInt8)
  | bare (text : List UInt8)
deriving DecidableEq, Repr

namespace OptionText

/-- The printed text. -/
def text : OptionText → List UInt8
  | .named status name rest => status.text ++ name ++ rest
  | .bare text => text

/-- Its length. -/
def size : OptionText → Nat
  | .named _ name rest => 3 + name.length + rest.length
  | .bare text => text.length

/-- `OPTION_OK "%s\n"` and the same with the other statuses. -/
def line (status : OptionStatus) (name : List UInt8) : OptionText := .named status name [10]

/-- `OPTION_OK "%s=%s\n"`. -/
def value (name text : List UInt8) : OptionText := .named .ok name (61 :: text ++ [10])

/-- All statuses have three characters. -/
@[simp] theorem length_status (status : OptionStatus) : status.text.length = 3 := by
  cases status <;> rfl

/-- The length of a text is told by the lengths of its parts. -/
@[simp] theorem length_text (printed : OptionText) : printed.text.length = printed.size := by
  cases printed with
  | named status name rest => simp only [text, size, List.length_append, length_status]
  | bare text => rfl

end OptionText

/-- What is appended to the response: a handler prints with `sprintf`, and `http_run_command` itself
calls `req_write`. -/
inductive Append where
  | sprintf (printed : OptionText)
  | write (msg : List UInt8)
deriving DecidableEq, Repr

namespace Append

/-- The length of what is appended. -/
def size : Append → Nat
  | .sprintf printed => printed.size
  | .write msg => msg.length

/-- The room is checked. -/
def checked : Append → Bool
  | .sprintf _ => false
  | .write _ => true

end Append

/-- The response after an append. -/
def Response.append (response : Response) : Append → Response
  | .sprintf printed => response.sprintf printed.text
  | .write msg => response.reqWrite msg

/-! ## The commands -/

/-- An entry of `HttpOptionTable`. -/
structure HttpOption (σ : Type) where
  /-- `name`. -/
  name : List UInt8
  /-- `handler`. It is given the state of the system, the authority of the request, and the name and
  the value of the argument, and does not return for some. -/
  handler : σ → Nat → List UInt8 → List UInt8 → Option (σ × List OptionText)
  /-- `authority`. -/
  authority : Nat
  /-- The flag `API_VIDEO`. -/
  video : Bool

/-- `http_option_search` on the chains that `hash_table_init` makes. -/
def httpOptionSearch {σ : Type} (table : List (HttpOption σ)) (arg : List UInt8) :
    Option (HttpOption σ) :=
  hashSearch HttpOption.name table (fun left right => decide (left = right)) arg

/-- `strtolower`. -/
def strToLower (text : List UInt8) : List UInt8 := text.map toLower

section Commands

variable {σ : Type} (table : List (HttpOption σ)) (restarting : σ → Bool) (authority : Nat)

/-- A command that was run. -/
structure Done (σ : Type) where
  /-- The name in lower case. -/
  name : List UInt8
  /-- The entry whose handler was called. -/
  called : Option (HttpOption σ)
  /-- The response behind the command. -/
  response : Response

end Commands

/-! ## Handlers -/

/-- `undefined`. -/
def undefined {σ : Type} (system : σ) (_ : Nat) (name _ : List UInt8) :
    Option (σ × List OptionText) :=
  some (system, [.line .ns name])

namespace Response

/-- The response is inside its buffer. -/
def InBounds (response : Response) : Prop :=
  response.bufferEnd ≤ bufferSize ∧ response.reach ≤ bufferSize + 1

instance (response : Response) : Decidable response.InBounds := inferInstanceAs (Decidable (_ ∧ _))

/-- The checked functions keep the response inside its buffer. -/
theorem InBounds.reqCopy {response : Response} (inside : response.InBounds) (data : List UInt8) :
    (response.reqCopy data).InBounds := by
  unfold Response.reqCopy
  split_ifs with skipped long
  · exact inside
  · exact inside
  · constructor
    · simp only [bufferEnd, List.length_append] at long ⊢
      omega
    · simp only [bufferEnd] at long ⊢
      have reach := inside.2
      omega

end Response

/-! ## The length of the replies -/

/-- The length of several texts. -/
def totalSize (appends : List Append) : Nat := (appends.map Append.size).sum

namespace Response

end Response

/-! ## All requests -/

section Bounds

variable {σ : Type} (table : List (HttpOption σ)) (restarting : σ → Bool) (authority : Nat)

/-- A command in order. -/
structure Done.InOrder (done : Done σ) : Prop where
  /-- The response is inside its buffer. -/
  bounds : done.response.InBounds
  /-- A handler that was called belongs to the entry of the command, and its entry allows the
  authority of the request. -/
  permitted : ∀ option, done.called = some option →
    httpOptionSearch table done.name = some option ∧ authority ≤ option.authority

end Bounds

end BoaIpcam
