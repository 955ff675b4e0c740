import BoaIpcam.Numeral
import BoaIpcam.Relay.Response

/-!
# The lines of a header

`process_option_line` of `request.c` takes the lines behind the request line. A few are for the server
itself, and the first of each kind is kept; the other lines become variables of the environment of
a script.
-/
namespace BoaIpcam.Intake

open Relay (Keepalive)

/-! ## Variables -/

/-- `COMMON_CGI_COUNT`. -/
def commonCgiCount : ℕ := 6

/-- `CGI_ENV_MAX`; the array `cgi_env` has four places more. -/
def cgiEnvMax : ℕ := 50

/-- `env_gen_extra`, with the text in front of the key. -/
def envGenExtra (extra key value : List UInt8) : List UInt8 := extra ++ (key ++ 61 :: value)

/-- The text in front of the key of a variable that the header gives. -/
def http : List UInt8 := ascii "HTTP_"

/-- `add_cgi_env`. The list is `cgi_env` from `COMMON_CGI_COUNT` on. -/
def addCgiEnv (extra key value : List UInt8) (cgiEnv : List (List UInt8)) :
    Option (List (List UInt8)) :=
  if commonCgiCount + cgiEnv.length < cgiEnvMax then
    some (cgiEnv ++ [envGenExtra extra key value])
  else none

/-! ## Lines -/

/-- What the lines of a header set. -/
structure Fields where
  /-- The value of `If-Modified-Since`. -/
  ifModifiedSince : Option (List UInt8)
  /-- The value of `Content-Type`. -/
  contentType : Option (List UInt8)
  /-- The value of `Content-Length`. -/
  contentLength : Option (List UInt8)
  /-- The value of `Authorization`. -/
  authorization : Option (List UInt8)
  /-- What `Connection` asks for. -/
  keepalive : Keepalive
  /-- The value of `Referer`. -/
  headerReferer : Option (List UInt8)
  /-- The value of `User-Agent`. -/
  headerUserAgent : Option (List UInt8)
  /-- The session of a tunnel. -/
  sessionid : List UInt8
  /-- The variables of the other lines. -/
  cgiEnv : List (List UInt8)
deriving DecidableEq, Repr

/-- A new request. -/
def Fields.new : Fields := ⟨none, none, none, none, .inactive, none, none, [], []⟩

/-- `to_upper`. -/
def toUpper (text : List UInt8) : List UInt8 :=
  text.map fun c => if c = 45 then 95 else if 97 ≤ c ∧ c ≤ 122 then c - 32 else c

/-- A variable of the header. -/
def Fields.addEnv (f : Fields) (key value : List UInt8) : Option Fields :=
  (addCgiEnv http key value f.cgiEnv).map fun cgiEnv => { f with cgiEnv }

/-- The cases of `process_option_line`. The line `Accept` is dropped, since `ACCEPT_ON` is not
defined. -/
def optionCase (kaMax : ℕ) (line value : List UInt8) (f : Fields) : Option Fields :=
  if line = ascii "IF_MODIFIED_SINCE" ∧ f.ifModifiedSince = none then
    some { f with ifModifiedSince := some value }
  else if line = ascii "CONTENT_TYPE" ∧ f.contentType = none then
    some { f with contentType := some value }
  else if line = ascii "CONTENT_LENGTH" ∧ f.contentLength = none then
    some { f with contentLength := some value }
  else if line = ascii "AUTHORIZATION" ∧ f.authorization = none then
    some { f with authorization := some value }
  else if line = ascii "CONNECTION" ∧ kaMax ≠ 0 ∧ f.keepalive ≠ .stopped then
    some { f with
      keepalive := if StrCaseEq (value.take 10) (ascii "Keep-Alive") then .active else .stopped }
  else if line = ascii "ACCEPT" then some f
  else if line = ascii "REFERER" then { f with headerReferer := some value }.addEnv line value
  else if line = ascii "USER_AGENT" then { f with headerUserAgent := some value }.addEnv line value
  else if ascii "X_SESSIONCOOKIE" <+: line then some { f with sessionid := value.take 27 }
  else f.addEnv line value

/-- The name of a line and its value. -/
def cutLine (line : List UInt8) : Option (List UInt8 × List UInt8) :=
  (splitAtByte 58 line).map fun parts =>
    (toUpper parts.1, parts.2.dropWhile fun c => c = 32 ∨ c = 9)

/-- `process_option_line`. -/
def processOptionLine (kaMax : ℕ) (line : List UInt8) (f : Fields) : Option Fields :=
  (cutLine line).bind fun parts => optionCase kaMax parts.1 parts.2 f

/-! ## Variables of the header -/

/-- The variable that a line stands for. -/
def headerVariable (line : List UInt8) : List UInt8 :=
  ((cutLine line).map fun parts => envGenExtra http parts.1 parts.2).getD []

/-- There is room for a variable, and it is the last one. -/
theorem addEnv_cases {f next : Fields} {key value : List UInt8}
    (added : f.addEnv key value = some next) :
    next.cgiEnv = f.cgiEnv ++ [envGenExtra http key value] ∧
      commonCgiCount + next.cgiEnv.length ≤ cgiEnvMax := by
  have room : commonCgiCount + f.cgiEnv.length < cgiEnvMax := by
    by_contra full
    rw [Fields.addEnv, addCgiEnv, if_neg full] at added
    cases added
  rw [Fields.addEnv, addCgiEnv, if_pos room] at added
  cases added
  refine ⟨rfl, ?_⟩
  simp only [List.length_append, List.length_singleton]
  omega

/-- The names of the lines that the server may keep for itself. -/
def ownNames : List (List UInt8) :=
  [ascii "IF_MODIFIED_SINCE", ascii "CONTENT_TYPE", ascii "CONTENT_LENGTH", ascii "AUTHORIZATION",
    ascii "CONNECTION", ascii "ACCEPT"]

/-- A name that the server may keep for itself. -/
def OwnName (name : List UInt8) : Prop := name ∈ ownNames ∨ ascii "X_SESSIONCOOKIE" <+: name

attribute [local instance] text_lawfulBEq in
instance (name : List UInt8) : Decidable (OwnName name) :=
  inferInstanceAs (Decidable (name ∈ ownNames ∨ ascii "X_SESSIONCOOKIE" <+: name))

/-- A line that the server may keep for itself. -/
def OwnLine (line : List UInt8) : Prop := ∀ parts ∈ cutLine line, OwnName parts.1

instance (line : List UInt8) : Decidable (OwnLine line) :=
  inferInstanceAs (Decidable (∀ parts ∈ cutLine line, OwnName parts.1))

/-- A line adds its variable, unless the server keeps it. -/
theorem optionCase_cgiEnv {kaMax : ℕ} {line value : List UInt8} {f next : Fields}
    (done : optionCase kaMax line value f = some next) :
    next.cgiEnv = f.cgiEnv ∧ OwnName line ∨
      next.cgiEnv = f.cgiEnv ++ [envGenExtra http line value] ∧
        commonCgiCount + next.cgiEnv.length ≤ cgiEnvMax := by
  unfold optionCase at done
  split at done
  · rename_i name
    cases done
    exact .inl ⟨rfl, .inl (by simp [ownNames, name.1])⟩
  split at done
  · rename_i name
    cases done
    exact .inl ⟨rfl, .inl (by simp [ownNames, name.1])⟩
  split at done
  · rename_i name
    cases done
    exact .inl ⟨rfl, .inl (by simp [ownNames, name.1])⟩
  split at done
  · rename_i name
    cases done
    exact .inl ⟨rfl, .inl (by simp [ownNames, name.1])⟩
  split at done
  · rename_i name
    cases done
    exact .inl ⟨rfl, .inl (by simp [ownNames, name.1])⟩
  split at done
  · rename_i name
    cases done
    exact .inl ⟨rfl, .inl (by simp [ownNames, name])⟩
  split at done
  · have added := addEnv_cases done
    exact .inr added
  split at done
  · have added := addEnv_cases done
    exact .inr added
  split at done
  · rename_i name
    cases done
    exact .inl ⟨rfl, .inr name⟩
  · exact .inr (addEnv_cases done)

/-- A line adds its variable, unless the server keeps it. -/
theorem processOptionLine_cgiEnv {kaMax : ℕ} {line : List UInt8} {f next : Fields}
    (done : processOptionLine kaMax line f = some next) :
    next.cgiEnv = f.cgiEnv ∧ OwnLine line ∨
      next.cgiEnv = f.cgiEnv ++ [headerVariable line] ∧
        commonCgiCount + next.cgiEnv.length ≤ cgiEnvMax := by
  obtain ⟨parts, cut, handled⟩ := Option.bind_eq_some_iff.mp done
  have shown : headerVariable line = envGenExtra http parts.1 parts.2 := by
    rw [headerVariable, cut]
    rfl
  rw [shown]
  rcases optionCase_cgiEnv handled with ⟨same, own⟩ | more
  · left
    refine ⟨same, ?_⟩
    intro other given
    rw [cut] at given
    cases given
    exact own
  · exact .inr more

/-- The lines of a header, one after the other. -/
def processOptionLines (kaMax : ℕ) (lines : List (List UInt8)) (f : Fields) : Option Fields :=
  lines.foldlM (fun f line => processOptionLine kaMax line f) f

/-- The variables of a header are those of its lines, in their order, without some of those that the
server may keep, and there is room for them. -/
theorem processOptionLines_cgiEnv {kaMax : ℕ} {lines : List (List UInt8)} {f next : Fields}
    (done : processOptionLines kaMax lines f = some next)
    (room : commonCgiCount + f.cgiEnv.length ≤ cgiEnvMax) :
    ∃ headers, List.Sublist headers (lines.map headerVariable) ∧
      List.Sublist ((lines.filter (¬OwnLine ·)).map headerVariable) headers ∧
      next.cgiEnv = f.cgiEnv ++ headers ∧ commonCgiCount + next.cgiEnv.length ≤ cgiEnvMax := by
  induction lines generalizing f with
  | nil =>
    cases done
    exact ⟨[], List.nil_sublist _, List.nil_sublist _, (List.append_nil _).symm, room⟩
  | cons line lines ih =>
    rw [processOptionLines, List.foldlM_cons] at done
    obtain ⟨mid, first, others⟩ := Option.bind_eq_some_iff.mp done
    rcases processOptionLine_cgiEnv first with ⟨same, own⟩ | ⟨more, fits⟩
    · rw [← same] at room
      obtain ⟨headers, some, all, rest, fits⟩ := ih others room
      rw [same] at rest
      refine ⟨headers, some.cons _, ?_, rest, fits⟩
      rw [List.filter_cons_of_neg (by simpa using own)]
      exact all
    · obtain ⟨headers, some, all, rest, fits⟩ := ih others fits
      rw [more, List.append_assoc] at rest
      refine ⟨headerVariable line :: headers, some.cons_cons _, ?_, rest, fits⟩
      by_cases own : OwnLine line
      · rw [List.filter_cons_of_neg (by simpa using own)]
        exact all.cons _
      · rw [List.filter_cons_of_pos (by simpa using own)]
        exact all.cons_cons _

end BoaIpcam.Intake
