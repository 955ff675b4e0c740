import BoaIpcam.Uri.Translate
import BoaIpcam.Intake.Options

/-!
# The environment of a script

`cgi.c` makes the environment of a script in the array `cgi_env`: six variables that all scripts
share, those that the lines of the header have added, and last those of the request. No line of a
header stands for a variable of the other two kinds.
-/
namespace BoaIpcam.Intake

/-! ## The variables -/

/-- The texts of the configuration. -/
structure ServerTexts where
  /-- `cgi_path`. -/
  cgiPath : Option (List UInt8)
  /-- `server_name`. -/
  serverName : List UInt8
  /-- `server_port`. -/
  serverPort : ℕ
  /-- `server_admin`. -/
  serverAdmin : Option (List UInt8)
  /-- `default_type`. -/
  defaultType : List UInt8

/-- What `complete_env` reads of a request besides the lines of the header. -/
structure CgiRequest where
  /-- The method. -/
  method : Method
  /-- The address that was asked. -/
  localIpAddr : List UInt8
  /-- The text of the version. -/
  httpVersion : List UInt8
  /-- The URI. -/
  requestUri : List UInt8
  /-- What follows the script's name. -/
  pathInfo : Option (List UInt8)
  /-- Its file. -/
  pathTranslated : Option (List UInt8)
  /-- The script's name. -/
  scriptName : Option (List UInt8)
  /-- What follows the question mark. -/
  queryString : Option (List UInt8)
  /-- The address of the client. -/
  remoteIpAddr : List UInt8
  /-- Its port. -/
  remotePort : ℕ

/-- `DEFAULT_PATH`. -/
def defaultPath : List UInt8 := ascii "/bin:/usr/bin:/usr/local/bin"

/-- The keys and values of `create_common_env`. -/
def commonVariables (texts : ServerTexts) : List (List UInt8 × List UInt8) :=
  [(ascii "PATH", texts.cgiPath.getD defaultPath),
    (ascii "SERVER_SOFTWARE", ascii "Boa/0.94.13"),
    (ascii "SERVER_NAME", texts.serverName),
    (ascii "GATEWAY_INTERFACE", ascii "CGI/1.1"),
    (ascii "SERVER_PORT", decimal texts.serverPort),
    (ascii "SERVER_ADMIN", texts.serverAdmin.getD [])]

/-- The value of `REQUEST_METHOD`. -/
def methodText : Method → List UInt8
  | .post => ascii "POST"
  | .head => ascii "HEAD"
  | .get => ascii "GET"

/-- A variable that is there if its value is. -/
def given (key : List UInt8) (value : Option (List UInt8)) : List (List UInt8 × List UInt8) :=
  (value.map fun value => (key, value)).toList

/-- The keys and values that `complete_env` adds. -/
def requestVariables (texts : ServerTexts) (r : CgiRequest) (f : Fields) :
    List (List UInt8 × List UInt8) :=
  [(ascii "REQUEST_METHOD", methodText r.method),
    (ascii "SERVER_ADDR", r.localIpAddr),
    (ascii "SERVER_PROTOCOL", r.httpVersion),
    (ascii "REQUEST_URI", r.requestUri)] ++
  given (ascii "PATH_INFO") r.pathInfo ++
  given (ascii "PATH_TRANSLATED") r.pathTranslated ++
  [(ascii "SCRIPT_NAME", r.scriptName.getD [])] ++
  given (ascii "QUERY_STRING") r.queryString ++
  [(ascii "REMOTE_ADDR", r.remoteIpAddr), (ascii "REMOTE_PORT", decimal r.remotePort)] ++
  if r.method = .post then
    (ascii "CONTENT_TYPE", f.contentType.getD texts.defaultType) ::
      given (ascii "CONTENT_LENGTH") f.contentLength
  else []

/-- The texts of variables. -/
def entries (pairs : List (List UInt8 × List UInt8)) : List (List UInt8) :=
  pairs.map fun v => envGenExtra [] v.1 v.2

/-- `add_cgi_env` of some variables. -/
def addCgiEnvs (pairs : List (List UInt8 × List UInt8)) (cgiEnv : List (List UInt8)) :
    Option (List (List UInt8)) :=
  pairs.foldlM (fun cgiEnv v => addCgiEnv [] v.1 v.2 cgiEnv) cgiEnv

/-- `complete_env`: the array up to its terminator. -/
def completeEnv (texts : ServerTexts) (r : CgiRequest) (f : Fields) : Option (List (List UInt8)) :=
  (addCgiEnvs (requestVariables texts r f) f.cgiEnv).map (entries (commonVariables texts) ++ ·)

/-- `getenv` of the script: the value of the first variable with the key. -/
def getenv (env : List (List UInt8)) (key : List UInt8) : Option (List UInt8) :=
  (env.find? fun entry => key ++ [61] <+: entry).map (·.drop (key.length + 1))

/-- The value of a key in a list of keys and values. -/
def valueOf (pairs : List (List UInt8 × List UInt8)) (key : List UInt8) : Option (List UInt8) :=
  (pairs.find? fun v => v.1 = key).map (·.2)

/-! ## Looking up -/

/-- `add_cgi_env` adds all the variables or runs out of places. -/
theorem addCgiEnvs_eq {pairs : List (List UInt8 × List UInt8)} {cgiEnv : List (List UInt8)}
    (room : commonCgiCount + cgiEnv.length ≤ cgiEnvMax) :
    addCgiEnvs pairs cgiEnv =
      if commonCgiCount + cgiEnv.length + pairs.length ≤ cgiEnvMax then
        some (cgiEnv ++ entries pairs)
      else none := by
  induction pairs generalizing cgiEnv with
  | nil =>
    rw [if_pos (by simpa using room)]
    simp [addCgiEnvs, entries]
  | cons v pairs ih =>
    by_cases more : commonCgiCount + cgiEnv.length < cgiEnvMax
    · have step : addCgiEnvs (v :: pairs) cgiEnv =
          addCgiEnvs pairs (cgiEnv ++ [envGenExtra [] v.1 v.2]) := by
        rw [addCgiEnvs, List.foldlM_cons, addCgiEnv, if_pos more]
        rfl
      have size : (cgiEnv ++ [envGenExtra [] v.1 v.2]).length = cgiEnv.length + 1 := by simp
      rw [step, ih (by omega), size, List.append_assoc, List.length_cons]
      congr 1
      apply propext
      constructor
      · intro fits
        omega
      · intro fits
        omega
    · have step : addCgiEnvs (v :: pairs) cgiEnv = none := by
        rw [addCgiEnvs, List.foldlM_cons, addCgiEnv, if_neg more]
        rfl
      rw [step, List.length_cons, if_neg (by omega)]

/-- Two keys without the sign `=` in front of the same text are equal. -/
theorem key_of_front {key other value : List UInt8} (plain : 61 ∉ key) (solid : 61 ∉ other) :
    key ++ [61] <+: envGenExtra [] other value ↔ other = key := by
  show key ++ [61] <+: other ++ 61 :: value ↔ other = key
  induction key generalizing other with
  | nil =>
    cases other with
    | nil => simp
    | cons c other =>
      have different : (61 : UInt8) ≠ c := fun same => solid (same ▸ List.mem_cons_self)
      simp [different]
  | cons d key ih =>
    have apart : (61 : UInt8) ≠ d := fun same => plain (same ▸ List.mem_cons_self)
    cases other with
    | nil => simp [apart.symm]
    | cons c other =>
      have rest := ih (fun member => plain (List.mem_cons_of_mem _ member))
        (fun member => solid (List.mem_cons_of_mem _ member))
      simp only [List.cons_append, List.cons_prefix_cons, rest, List.cons.injEq]
      constructor
      · intro both
        exact ⟨both.1.symm, both.2⟩
      · intro both
        exact ⟨both.1.symm, both.2⟩

/-- `getenv` finds the value of a key among variables whose keys have no sign `=`. -/
theorem getenv_entries {pairs : List (List UInt8 × List UInt8)} {key : List UInt8}
    (plain : 61 ∉ key) (solid : ∀ v ∈ pairs, (61 : UInt8) ∉ v.1) :
    getenv (entries pairs) key = valueOf pairs key := by
  induction pairs with
  | nil => rfl
  | cons v pairs ih =>
    have first := @key_of_front key v.1 v.2 plain (solid v List.mem_cons_self)
    have others := ih fun w member => solid w (List.mem_cons_of_mem _ member)
    by_cases same : v.1 = key
    · have front : key ++ [61] <+: envGenExtra [] v.1 v.2 := first.mpr same
      have value : (envGenExtra [] v.1 v.2).drop (key.length + 1) = v.2 := by
        rw [← same]
        simp [envGenExtra, List.drop_append]
      rw [getenv, entries, List.map_cons, List.find?_cons_of_pos (by simpa using front),
        Option.map_some, value, valueOf, List.find?_cons_of_pos (by simpa using same)]
      rfl
    · have front : ¬key ++ [61] <+: envGenExtra [] v.1 v.2 := fun front => same (first.mp front)
      rw [getenv, entries, List.map_cons, List.find?_cons_of_neg (by simpa using front), valueOf,
        List.find?_cons_of_neg (by simpa using same)]
      exact others

/-- `getenv` in two lists of variables. -/
theorem getenv_append (left right : List (List UInt8)) (key : List UInt8) :
    getenv (left ++ right) key = (getenv left key).or (getenv right key) := by
  rw [getenv, getenv, getenv, List.find?_append]
  cases left.find? fun entry => decide (key ++ [61] <+: entry) with
  | none => rfl
  | some entry => rfl

/-- The value of a key in two lists. -/
theorem valueOf_append (left right : List (List UInt8 × List UInt8)) (key : List UInt8) :
    valueOf (left ++ right) key = (valueOf left key).or (valueOf right key) := by
  rw [valueOf, valueOf, valueOf, List.find?_append]
  cases left.find? fun v => decide (v.1 = key) with
  | none => rfl
  | some v => rfl

/-- A variable of the header has a key that begins with `HTTP_`. -/
theorem http_of_front {key rest : List UInt8} (front : key ++ [61] <+: http ++ rest) : http <+: key := by
  have long : http.length ≤ key.length := by
    by_contra short
    have cell : (http ++ rest)[key.length]? = some 61 := by
      obtain ⟨tail, same⟩ := front
      rw [← same]
      simp
    rw [List.getElem?_append_left (Nat.not_le.mp short)] at cell
    have member : (61 : UInt8) ∈ http := List.mem_of_getElem? cell
    revert member
    decide
  have left : http <+: http ++ rest := List.prefix_append _ _
  have right : key <+: http ++ rest := (List.prefix_append key [61]).trans front
  exact List.prefix_of_prefix_length_le left right long

/-- The variables of the header give nothing for another key. -/
theorem getenv_headers {headers lines : List (List UInt8)} {key : List UInt8} (other : ¬http <+: key) (some : List.Sublist headers (lines.map headerVariable)) :
    getenv headers key = none := by
  rw [getenv, Option.map_eq_none_iff, List.find?_eq_none]
  intro entry member found
  obtain ⟨line, -, rfl⟩ := List.mem_map.mp (some.subset member)
  have front : key ++ [61] <+: headerVariable line := of_decide_eq_true found
  cases cut : cutLine line with
  | none =>
    rw [headerVariable, cut] at front
    simp at front
  | some parts =>
    rw [headerVariable, cut] at front
    exact other (http_of_front front)

/-! ## The environment -/

/-- The keys of the server. -/
def serverKeys : List (List UInt8) :=
  [ascii "PATH", ascii "SERVER_SOFTWARE", ascii "SERVER_NAME", ascii "GATEWAY_INTERFACE",
    ascii "SERVER_PORT", ascii "SERVER_ADMIN"] ++
  ([ascii "REQUEST_METHOD", ascii "SERVER_ADDR", ascii "SERVER_PROTOCOL", ascii "REQUEST_URI"] ++
    [ascii "PATH_INFO"] ++ [ascii "PATH_TRANSLATED"] ++ [ascii "SCRIPT_NAME"] ++
    [ascii "QUERY_STRING"] ++ [ascii "REMOTE_ADDR", ascii "REMOTE_PORT"] ++
    ascii "CONTENT_TYPE" :: [ascii "CONTENT_LENGTH"])

/-- A variable that may be there has its key. -/
theorem keys_given (key : List UInt8) (value : Option (List UInt8)) :
    ((given key value).map Prod.fst).Sublist [key] := by
  cases value with
  | none => exact List.nil_sublist _
  | some value => exact List.Sublist.refl _

/-- The variables of the server have its keys. -/
theorem keys_server (texts : ServerTexts) (r : CgiRequest) (f : Fields) :
    ((commonVariables texts ++ requestVariables texts r f).map Prod.fst).Sublist serverKeys := by
  have post : ((if r.method = .post then
      (ascii "CONTENT_TYPE", f.contentType.getD texts.defaultType) ::
        given (ascii "CONTENT_LENGTH") f.contentLength else []).map Prod.fst).Sublist
      (ascii "CONTENT_TYPE" :: [ascii "CONTENT_LENGTH"]) := by
    split
    · exact (keys_given _ _).cons_cons _
    · exact List.nil_sublist _
  rw [List.map_append, requestVariables]
  simp only [List.map_append]
  exact List.Sublist.append (List.Sublist.refl _)
    ((((((List.Sublist.append (List.Sublist.refl _) (keys_given _ _)).append
      (keys_given _ _)).append (List.Sublist.refl _)).append (keys_given _ _)).append
        (List.Sublist.refl _)).append post)

/-- The keys of the server have no sign `=`. -/
theorem solid_server (texts : ServerTexts) (r : CgiRequest) (f : Fields) :
    ∀ v ∈ commonVariables texts ++ requestVariables texts r f, (61 : UInt8) ∉ v.1 := by
  have plain : ∀ key ∈ serverKeys, (61 : UInt8) ∉ key := by decide
  intro v member
  exact plain v.1 ((keys_server texts r f).subset (List.mem_map_of_mem member))

/-- The environment of a script is that of all scripts, the variables of the header, and those of the
request, up to `CGI_ENV_MAX` of them; with more it is not made. The header gives the variables of its
lines in their order, but for lines that the server keeps, and none that a script finds under a
key that does not begin with `HTTP_`. -/
theorem environment_exact (texts : ServerTexts) (r : CgiRequest) {kaMax : ℕ}
    {lines : List (List UInt8)} {f : Fields}
    (parsed : processOptionLines kaMax lines Fields.new = some f) :
    ∃ headers, List.Sublist headers (lines.map headerVariable) ∧
      List.Sublist ((lines.filter (¬OwnLine ·)).map headerVariable) headers ∧
      completeEnv texts r f =
        (if commonCgiCount + headers.length + (requestVariables texts r f).length ≤ cgiEnvMax then
          some (entries (commonVariables texts) ++ (headers ++ entries (requestVariables texts r f)))
        else none) ∧
      ∀ env, completeEnv texts r f = some env → env.length ≤ cgiEnvMax ∧
        ∀ key, 61 ∉ key → ¬http <+: key →
          getenv env key = valueOf (commonVariables texts ++ requestVariables texts r f) key := by
  have start : commonCgiCount + Fields.new.cgiEnv.length ≤ cgiEnvMax := by decide
  obtain ⟨headers, part, all, same, room⟩ := processOptionLines_cgiEnv parsed start
  have same : f.cgiEnv = headers := same
  have made : completeEnv texts r f =
      (if commonCgiCount + headers.length + (requestVariables texts r f).length ≤ cgiEnvMax then
        some (entries (commonVariables texts) ++ (headers ++ entries (requestVariables texts r f)))
      else none) := by
    rw [completeEnv, addCgiEnvs_eq room, same]
    split
    · rfl
    · rfl
  refine ⟨headers, part, all, made, ?_⟩
  intro env done
  rw [made] at done
  split at done
  · rename_i fits
    cases done
    constructor
    · have common : (entries (commonVariables texts)).length = commonCgiCount := rfl
      have own : (entries (requestVariables texts r f)).length =
          (requestVariables texts r f).length := List.length_map _
      rw [List.length_append, List.length_append, common, own]
      omega
    · intro key plain other
      have solid := solid_server texts r f
      rw [List.forall_mem_append] at solid
      rw [getenv_append, getenv_append, getenv_headers other part, Option.none_or,
        getenv_entries plain solid.1, getenv_entries plain solid.2, valueOf_append]
  · cases done

/-- The lines of a client that names another address. -/
def forgedLines : List (List UInt8) := [ascii "Host: camera", ascii "Remote-Addr: 127.0.0.1"]

/-- What they set. -/
def forgedFields : Fields :=
  { Fields.new with cgiEnv := [ascii "HTTP_HOST=camera", ascii "HTTP_REMOTE_ADDR=127.0.0.1"] }

/-- A configuration. -/
def cameraTexts : ServerTexts := ⟨none, ascii "camera", 80, none, ascii "text/plain"⟩

/-- A request for a script. -/
def cameraRequest : CgiRequest :=
  ⟨.get, ascii "10.0.0.1", ascii "HTTP/1.1", ascii "/cgi-bin/a.cgi", none, none,
    some (ascii "/cgi-bin/a.cgi"), none, ascii "10.0.0.7", 4000⟩

/-- The script sees the address of the client. -/
theorem environment_exact_forged : ∃ env,
    completeEnv cameraTexts cameraRequest forgedFields = some env ∧
      getenv env (ascii "REMOTE_ADDR") = some (ascii "10.0.0.7") := by
  have parsed : processOptionLines 5 forgedLines Fields.new = some forgedFields := by decide
  obtain ⟨env, done⟩ : ∃ env, completeEnv cameraTexts cameraRequest forgedFields = some env :=
    Option.isSome_iff_exists.mp (by decide)
  obtain ⟨headers, -, -, -, found⟩ := environment_exact cameraTexts cameraRequest parsed
  have looked := (found env done).2 (ascii "REMOTE_ADDR") (by decide) (by decide)
  exact ⟨env, done, looked.trans (by decide)⟩

end BoaIpcam.Intake
