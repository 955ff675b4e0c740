import BoaIpcam.Config.Written
import BoaIpcam.Lib.Run

/-!
# The listening ports

Five handlers set the ports of HTTP, HTTPS and RTSP. The commands `set_httpport`, `https_port` and
`set_rtspport` of `appro_api.c` compare the new port with the other two. The requests
`uri_httpport` and `uri_network` of `request.c` do not, and `uri_network` reads the port of RTSP
into a variable of 8 bits, whose address it hands to `info_write`. The device service stores what
is handed on to it.
-/
namespace BoaIpcam

open TransitionSystem

/-- The three ports. -/
structure Ports where
  /-- The port of HTTP. -/
  http : UInt16
  /-- The port of HTTPS. -/
  https : UInt16
  /-- The port of RTSP. -/
  rtsp : UInt16
deriving DecidableEq, Repr

/-- The limits of the entries and the default ports, none of which is zero. -/
structure PortBuild where
  /-- The least value of `HTTP_PORT`. -/
  httpMin : Nat
  /-- The greatest value of `HTTP_PORT`. -/
  httpMax : Nat
  /-- The least value of `HTTPS_PORT`. -/
  httpsMin : Nat
  /-- The greatest value of `HTTPS_PORT`. -/
  httpsMax : Nat
  /-- The least value of `RTSP_PORT`. -/
  rtspMin : Nat
  /-- The greatest value of `RTSP_PORT`. -/
  rtspMax : Nat
  /-- `HTTP_PORT_DEFAULT`. -/
  httpPortDefault : Nat
  /-- `HTTPS_PORT_DEFAULT`. -/
  httpsPortDefault : Nat
  /-- No port of HTTP is zero. -/
  httpMin_pos : 0 < httpMin
  /-- No port of HTTPS is zero. -/
  httpsMin_pos : 0 < httpsMin
  /-- The default port of HTTP is not zero. -/
  httpDefault_pos : 0 < httpPortDefault
  /-- The default port of HTTPS is not zero. -/
  httpsDefault_pos : 0 < httpsPortDefault

/-- `MIN_HTTP_PORT`. -/
def minHttpPort : Nat := 1024

section Handlers

variable (build : PortBuild)

/-- The entries of the ports. -/
def PortBuild.config (ports : Ports) : Config
  | .httpPort => ⟨build.httpMin, build.httpMax, ports.http.toNat, ports.http.toNat_lt⟩
  | .httpsPort => ⟨build.httpsMin, build.httpsMax, ports.https.toNat, ports.https.toNat_lt⟩
  | .rtspPort => ⟨build.rtspMin, build.rtspMax, ports.rtsp.toNat, ports.rtsp.toNat_lt⟩
  | _ => ⟨0, 0, 0, by decide⟩

/-- A port after values were handed on. -/
def portAfter (port : UInt16) (result : SetResult) : UInt16 :=
  match result.handed.getLast? with
  | some handed => UInt16.ofNat handed.value
  | none => port

/-- The loop of a request over its arguments; none of the body is a `break`. -/
def argumentLoop {σ α : Type} (body : σ → α → Option σ) : σ → List α → σ
  | s, [] => s
  | s, arg :: args =>
    match body s arg with
    | none => s
    | some next => argumentLoop body next args

/-- The branch of the argument `httpport` in `uri_httpport` and `uri_network`. -/
def httpportArgument (ports : Ports) (text : List UInt8) : Option Ports :=
  let value := narrow 16 (atoi text)
  if value < minHttpPort ∧ value ≠ build.httpPortDefault then none
  else some { ports with http := UInt16.ofNat value }

/-- An argument of `uri_network`. -/
structure NetworkArgument where
  /-- The name. -/
  name : List UInt8
  /-- The text of the value. -/
  value : List UInt8
  /-- What the entry of RTSP, of 16 bits, holds after `info_write` of a variable of one byte; this
  function is not part of the sources. -/
  stored : UInt16

/-- The name and the value. -/
def NetworkArgument.pair (arg : NetworkArgument) : List UInt8 × List UInt8 := (arg.name, arg.value)

/-- The branch of the argument `rtspport` in `uri_network`. -/
def rtspportArgument (ports : Ports) (arg : NetworkArgument) : Ports :=
  if ports.rtsp.toNat = narrow 8 (atoi arg.value) then ports else { ports with rtsp := arg.stored }

/-- The body of the loop of `uri_httpport`. -/
def uriHttpportBody (ports : Ports) (arg : List UInt8 × List UInt8) : Option Ports :=
  if arg.1 = ascii "httpport" then httpportArgument build ports arg.2 else some ports

/-- The body of the loop of `uri_network`. Arguments with other names may end the loop. -/
def uriNetworkBody (stops : List UInt8 × List UInt8 → Bool) (ports : Ports)
    (arg : NetworkArgument) : Option Ports :=
  if arg.name = ascii "httpport" then httpportArgument build ports arg.value
  else if arg.name = ascii "rtspport" then some (rtspportArgument ports arg)
  else if stops arg.pair then none
  else some ports

/-- A command or a request for the ports. -/
inductive PortCommand where
  | setHttpport (text : List UInt8)
  | httpsPort (text : List UInt8)
  | setRtspport (text : List UInt8)
  | uriHttpport (args : List (List UInt8 × List UInt8))
  | uriNetwork (stops : List UInt8 × List UInt8 → Bool) (args : List NetworkArgument)

/-- The ports after a command or a request. -/
def PortCommand.apply (ports : Ports) (command : PortCommand) : Ports :=
  let config := build.config ports
  match command with
  | .setHttpport text =>
    let result := (BoaIpcam.setHttpport build.httpPortDefault).run config true text
    { ports with http := portAfter ports.http result }
  | .httpsPort text =>
    let result := (BoaIpcam.httpsPort build.httpsPortDefault).run config true text
    { ports with https := portAfter ports.https result }
  | .setRtspport text =>
    let result := BoaIpcam.setRtspport.run config true text
    { ports with rtsp := portAfter ports.rtsp result }
  | .uriHttpport args => argumentLoop (uriHttpportBody build) ports args
  | .uriNetwork stops args => argumentLoop (uriNetworkBody build stops) ports args

end Handlers

/-! ## What is asked of the ports -/

/-- The ports are different from each other and from zero. -/
def Ports.Distinct (ports : Ports) : Prop :=
  (ports.http ≠ ports.https ∧ ports.http ≠ ports.rtsp ∧ ports.https ≠ ports.rtsp) ∧
    ports.http ≠ 0 ∧ ports.https ≠ 0 ∧ ports.rtsp ≠ 0

instance (ports : Ports) : Decidable ports.Distinct := inferInstanceAs (Decidable (_ ∧ _))

/-- The texts of a command or a request that say the ports of HTTP, HTTPS and RTSP. -/
structure PortTexts where
  /-- The texts for HTTP. -/
  http : List (List UInt8)
  /-- The texts for HTTPS. -/
  https : List (List UInt8)
  /-- The texts for RTSP. -/
  rtsp : List (List UInt8)

/-- The values of the arguments with a name. -/
def valuesOf (name : List UInt8) (args : List (List UInt8 × List UInt8)) : List (List UInt8) :=
  (args.filter fun arg => arg.1 = name).map Prod.snd

/-- The texts of a command or a request. -/
def PortCommand.texts : PortCommand → PortTexts
  | .setHttpport text => ⟨[text], [], []⟩
  | .httpsPort text => ⟨[], [text], []⟩
  | .setRtspport text => ⟨[], [], [text]⟩
  | .uriHttpport args => ⟨valuesOf (ascii "httpport") args, [], []⟩
  | .uriNetwork _ args =>
    ⟨valuesOf (ascii "httpport") (args.map NetworkArgument.pair), [],
      valuesOf (ascii "rtspport") (args.map NetworkArgument.pair)⟩

/-- The least port of HTTP that a handler takes besides the default: the requests use a constant,
the command the limit of the entry. -/
def PortCommand.httpMinimum (build : PortBuild) : PortCommand → Nat
  | .setHttpport _ => build.httpMin
  | _ => minHttpPort

/-- A port is the old one, or it is allowed and one of the texts says it. -/
def PortFrom (allowed : Nat → Prop) (texts : List (List UInt8)) (old new : UInt16) : Prop :=
  new = old ∨ allowed new.toNat ∧ ∃ text ∈ texts, (new.toNat : Int) = leadingInt text

/-- The ports that come from the old ones and the texts. -/
structure PortsFrom (build : PortBuild) (httpMinimum : Nat) (texts : PortTexts)
    (old new : Ports) : Prop where
  /-- The port of HTTP. -/
  http : PortFrom (fun port => port = build.httpPortDefault ∨ httpMinimum ≤ port) texts.http
    old.http new.http
  /-- The port of HTTPS. -/
  https : PortFrom (fun port => port = build.httpsPortDefault ∨ build.httpsMin ≤ port) texts.https
    old.https new.https
  /-- The port of RTSP. -/
  rtsp : PortFrom (fun _ => True) texts.rtsp old.rtsp new.rtsp

/-- What is asked of a command or a request: the ports stay distinct, and a port that is stored is
the number that is written and at least the minimum or the default. -/
def PortsKept (build : PortBuild) (ports : Ports) (command : PortCommand) : Prop :=
  (command.apply build ports).Distinct ∧
    PortsFrom build (command.httpMinimum build) command.texts ports (command.apply build ports)

/-! ## When they are kept -/

/-- The number at the start of the text has 16 bits. -/
def Fits16 (text : List UInt8) : Prop := 0 ≤ leadingInt text ∧ leadingInt text < 65536

/-- A command hands on what it reads: the text is a number, what is left of it passes the test and
is not the current value. -/
def NumericSetter.HandsOn (setter : NumericSetter) (config : Config) (text : List UInt8) : Prop :=
  text ≠ [] ∧ numericCheck text = true ∧ setter.refuses config (setter.value text) = false ∧
    (config setter.entry).value ≠ setter.value text

/-- A condition on the arguments that the loop of a request gets to. -/
def LoopMeets {σ α : Type} (body : σ → α → Option σ) (meets : σ → α → Prop) : σ → List α → Prop
  | _, [] => True
  | s, arg :: args =>
    meets s arg ∧ ∀ next, body s arg = some next → LoopMeets body meets next args

/-- The condition on an argument `httpport`: if it changes the port, the number has 16 bits and is
none of the other ports. -/
def HttpportMeets (build : PortBuild) (ports : Ports) (text : List UInt8) : Prop :=
  ∀ next, httpportArgument build ports text = some next → next ≠ ports →
    Fits16 text ∧ leadingInt text ≠ ports.https.toNat ∧ leadingInt text ≠ ports.rtsp.toNat

/-- The condition on an argument `rtspport`: the port is the low byte of the number already, so that
nothing is handed to `info_write`. -/
def RtspportMeets (ports : Ports) (text : List UInt8) : Prop :=
  ports.rtsp.toNat = narrow 8 (atoi text)

/-- When a command or a request keeps the ports. A number that is handed on must have 16 bits, and
that of RTSP must not be zero. -/
def PortsMeet (build : PortBuild) (ports : Ports) : PortCommand → Prop
  | .setHttpport text =>
    (setHttpport build.httpPortDefault).HandsOn (build.config ports) text → Fits16 text
  | .httpsPort text =>
    (httpsPort build.httpsPortDefault).HandsOn (build.config ports) text → Fits16 text
  | .setRtspport text =>
    setRtspport.HandsOn (build.config ports) text → Fits16 text ∧ leadingInt text ≠ 0
  | .uriHttpport args => LoopMeets (uriHttpportBody build)
      (fun ports arg => arg.1 = ascii "httpport" → HttpportMeets build ports arg.2) ports args
  | .uriNetwork stops args => LoopMeets (uriNetworkBody build stops)
      (fun ports arg => (arg.name = ascii "httpport" → HttpportMeets build ports arg.value) ∧
        (arg.name = ascii "rtspport" → RtspportMeets ports arg.value)) ports args

/-! ## The commands -/

section Commands

variable {build : PortBuild} {ports : Ports} {text : List UInt8}

/-- A command leaves the port or stores what it hands on. -/
theorem NumericSetter.portAfter_run (setter : NumericSetter) (config : Config) (port : UInt16)
    (text : List UInt8) (reads : setter.reads = true) (compares : setter.compares = true) :
    portAfter port (setter.run config true text) = port ∨
      (setter.HandsOn config text ∧
        portAfter port (setter.run config true text) = UInt16.ofNat (setter.value text)) := by
  rcases setter.run_cases config true text with
    ⟨-, result⟩ | ⟨-, -, result⟩ | ⟨given, numeric, passed, result⟩
  · exact .inl (by rw [result]; rfl)
  · exact .inl (by rw [result]; rfl)
  have handed : (setter.run config true text).handed = setter.handed config (setter.value text) := by
    rw [result, handOn]
    split <;> rfl
  unfold portAfter
  rw [handed]
  by_cases same : (config setter.entry).value = setter.value text
  · have empty : setter.handed config (setter.value text) = [] := if_pos ⟨compares, same⟩
    exact .inl (by rw [empty]; rfl)
  · have nonempty : text ≠ [] := fun empty => given ⟨reads, empty⟩
    refine .inr ⟨⟨nonempty, numeric, passed, same⟩, ?_⟩
    rw [NumericSetter.handed, if_neg (fun both => same both.2)]
    by_cases twice : setter.repeatsZero = true ∧ setter.value text = 0
    · rw [if_pos twice]
      rfl
    · rw [if_neg twice]
      rfl

/-- A number of 16 bits as a port. -/
theorem toNat_port {value : Nat} {number : Int} (same : (value : Int) = number)
    (small : number < 65536) : ((UInt16.ofNat value).toNat : Int) = number := by
  have below : value < 2 ^ 16 := by omega
  rw [UInt16.toNat_ofNat', Nat.mod_eq_of_lt below]
  exact same

/-- A number of 16 bits is what a command without a factor reads and stores. -/
theorem NumericSetter.port_of_fits16 {setter : NumericSetter} {config : Config}
    (handsOn : setter.HandsOn config text) (fits : Fits16 text) (bits : setter.bits = 16)
    (scale : setter.scale = 1) :
    (setter.value text : Int) = leadingInt text ∧
      ((UInt16.ofNat (setter.value text)).toNat : Int) = leadingInt text := by
  have value := @NumericSetter.value_of_fits setter text handsOn.2.1
  rw [scale, bits] at value
  have small := fits.2
  have read := value (by omega)
  have same : (setter.value text : Int) = leadingInt text := by omega
  exact ⟨same, toNat_port same small⟩

/-- The ports stay distinct with another port of HTTP. -/
theorem Ports.Distinct.setHttp {port : UInt16} (distinct : ports.Distinct)
    (https : port ≠ ports.https) (rtsp : port ≠ ports.rtsp) (nonzero : port ≠ 0) :
    { ports with http := port }.Distinct :=
  ⟨⟨https, rtsp, distinct.1.2.2⟩, nonzero, distinct.2.2⟩

/-- The ports stay distinct with another port of HTTPS. -/
theorem Ports.Distinct.setHttps {port : UInt16} (distinct : ports.Distinct)
    (http : port ≠ ports.http) (rtsp : port ≠ ports.rtsp) (nonzero : port ≠ 0) :
    { ports with https := port }.Distinct :=
  ⟨⟨http.symm, distinct.1.2.1, rtsp⟩, distinct.2.1, nonzero, distinct.2.2.2⟩

/-- The ports stay distinct with another port of RTSP. -/
theorem Ports.Distinct.setRtsp {port : UInt16} (distinct : ports.Distinct)
    (http : port ≠ ports.http) (https : port ≠ ports.https) (nonzero : port ≠ 0) :
    { ports with rtsp := port }.Distinct :=
  ⟨⟨distinct.1.1, http.symm, https.symm⟩, distinct.2.1, distinct.2.2.1, nonzero⟩

/-- A port with another number is another port. -/
theorem port_ne {port other : UInt16} {number : Int} (same : (port.toNat : Int) = number)
    (differs : number ≠ other.toNat) : port ≠ other := by
  intro equal
  rw [equal] at same
  exact differs same.symm

/-- A port with a number other than zero is not zero. -/
theorem port_ne_zero {port : UInt16} {number : Int} (same : (port.toNat : Int) = number)
    (differs : number ≠ 0) : port ≠ 0 := port_ne same differs

/-- `set_httpport` keeps the ports. -/
theorem setHttpport_kept (distinct : ports.Distinct)
    (meets : PortsMeet build ports (.setHttpport text)) :
    PortsKept build ports (.setHttpport text) := by
  have cases := (setHttpport build.httpPortDefault).portAfter_run (build.config ports) ports.http
    text rfl rfl
  rcases cases with kept | ⟨stored, value⟩
  · have same : PortCommand.apply build ports (.setHttpport text) = ports := by
      simp only [PortCommand.apply, kept]
    rw [PortsKept, same]
    exact ⟨distinct, .inl rfl, .inl rfl, .inl rfl⟩
  · obtain ⟨number, port⟩ := NumericSetter.port_of_fits16 stored (meets stored) rfl rfl
    have passed := of_decide_eq_false stored.2.2.1
    simp only [PortBuild.config] at passed
    have least := build.httpMin_pos
    have usual := build.httpDefault_pos
    have next : PortCommand.apply build ports (.setHttpport text) =
        { ports with http := UInt16.ofNat ((setHttpport build.httpPortDefault).value text) } := by
      simp only [PortCommand.apply, value]
    rw [PortsKept, next]
    refine ⟨distinct.setHttp (port_ne port (by omega)) (port_ne port (by omega))
      (port_ne_zero port (by omega)), .inr ⟨?_, text, by simp [PortCommand.texts], port⟩,
      .inl rfl, .inl rfl⟩
    simp only [PortCommand.httpMinimum]
    omega

/-- `https_port` keeps the ports. -/
theorem httpsPort_kept (distinct : ports.Distinct)
    (meets : PortsMeet build ports (.httpsPort text)) :
    PortsKept build ports (.httpsPort text) := by
  have cases := (httpsPort build.httpsPortDefault).portAfter_run (build.config ports) ports.https
    text rfl rfl
  rcases cases with kept | ⟨stored, value⟩
  · have same : PortCommand.apply build ports (.httpsPort text) = ports := by
      simp only [PortCommand.apply, kept]
    rw [PortsKept, same]
    exact ⟨distinct, .inl rfl, .inl rfl, .inl rfl⟩
  · obtain ⟨number, port⟩ := NumericSetter.port_of_fits16 stored (meets stored) rfl rfl
    have passed := of_decide_eq_false stored.2.2.1
    simp only [PortBuild.config] at passed
    have least := build.httpsMin_pos
    have usual := build.httpsDefault_pos
    have next : PortCommand.apply build ports (.httpsPort text) =
        { ports with https := UInt16.ofNat ((httpsPort build.httpsPortDefault).value text) } := by
      simp only [PortCommand.apply, value]
    rw [PortsKept, next]
    refine ⟨distinct.setHttps (port_ne port (by omega)) (port_ne port (by omega))
      (port_ne_zero port (by omega)), .inl rfl,
      .inr ⟨?_, text, by simp [PortCommand.texts], port⟩, .inl rfl⟩
    dsimp only
    omega

/-- `set_rtspport` keeps the ports. -/
theorem setRtspport_kept (distinct : ports.Distinct)
    (meets : PortsMeet build ports (.setRtspport text)) :
    PortsKept build ports (.setRtspport text) := by
  have cases := setRtspport.portAfter_run (build.config ports) ports.rtsp text rfl rfl
  rcases cases with kept | ⟨stored, value⟩
  · have same : PortCommand.apply build ports (.setRtspport text) = ports := by
      simp only [PortCommand.apply, kept]
    rw [PortsKept, same]
    exact ⟨distinct, .inl rfl, .inl rfl, .inl rfl⟩
  · obtain ⟨fits, nonzero⟩ := meets stored
    obtain ⟨number, port⟩ := NumericSetter.port_of_fits16 stored fits rfl rfl
    have passed := of_decide_eq_false stored.2.2.1
    simp only [PortBuild.config] at passed
    have next : PortCommand.apply build ports (.setRtspport text) =
        { ports with rtsp := UInt16.ofNat (setRtspport.value text) } := by
      simp only [PortCommand.apply, value]
    rw [PortsKept, next]
    exact ⟨distinct.setRtsp (port_ne port (by omega)) (port_ne port (by omega))
      (port_ne_zero port nonzero), .inl rfl, .inl rfl,
      .inr ⟨trivial, text, by simp [PortCommand.texts], port⟩⟩

end Commands

/-! ## The requests -/

section Requests

variable {build : PortBuild} {ports : Ports} {text : List UInt8}

/-- What the body preserves for arguments that meet the condition holds after the loop. -/
theorem argumentLoop_kept {σ α : Type} {body : σ → α → Option σ} {meets : σ → α → Prop}
    (inv : σ → Prop) {args : List α}
    (step : ∀ s arg next, arg ∈ args → inv s → meets s arg → body s arg = some next → inv next)
    {s : σ} (start : inv s) (run : LoopMeets body meets s args) :
    inv (argumentLoop body s args) := by
  induction args generalizing s with
  | nil => exact start
  | cons arg args ih =>
    unfold argumentLoop
    split
    · exact start
    · next next moved =>
      refine ih ?_ (step s arg next List.mem_cons_self start run.1 moved) (run.2 next moved)
      exact fun s arg next member => step s arg next (List.mem_cons_of_mem _ member)

/-- A port from the old ones or the texts goes on to one from the same texts. -/
theorem PortFrom.trans {allowed : Nat → Prop} {texts : List (List UInt8)} {old mid new : UInt16}
    (first : PortFrom allowed texts old mid) (second : PortFrom allowed texts mid new) :
    PortFrom allowed texts old new := by
  rcases second with same | taken
  · rw [same]
    exact first
  · exact .inr taken

/-- So do the ports. -/
theorem PortsFrom.trans {minimum : Nat} {texts : PortTexts} {old mid new : Ports}
    (first : PortsFrom build minimum texts old mid)
    (second : PortsFrom build minimum texts mid new) : PortsFrom build minimum texts old new :=
  ⟨first.http.trans second.http, first.https.trans second.https, first.rtsp.trans second.rtsp⟩

/-- The ports come from themselves. -/
theorem PortsFrom.refl (minimum : Nat) (texts : PortTexts) :
    PortsFrom build minimum texts ports ports := ⟨.inl rfl, .inl rfl, .inl rfl⟩

/-- The value of an argument is among those of its name. -/
theorem mem_valuesOf {name : List UInt8} {args : List (List UInt8 × List UInt8)}
    {arg : List UInt8 × List UInt8} (member : arg ∈ args) (named : arg.1 = name) :
    arg.2 ∈ valuesOf name args := by
  unfold valuesOf
  rw [List.mem_map]
  exact ⟨arg, List.mem_filter.mpr ⟨member, by simpa using named⟩, rfl⟩

/-- An argument `httpport` that meets the condition keeps the ports. -/
theorem httpportArgument_kept {next : Ports} {texts : PortTexts} (distinct : ports.Distinct)
    (meets : HttpportMeets build ports text)
    (moved : httpportArgument build ports text = some next) (member : text ∈ texts.http) :
    next.Distinct ∧ PortsFrom build minHttpPort texts ports next := by
  by_cases same : next = ports
  · rw [same]
    exact ⟨distinct, .refl _ _⟩
  obtain ⟨fits, https, rtsp⟩ := meets next moved same
  have int : IsInt (leadingInt text) := by
    unfold IsInt
    have bounds := fits
    unfold Fits16 at bounds
    omega
  have read : (narrow 16 (atoi text) : Int) = leadingInt text := by
    rw [atoi_eq, clampInt_of_isInt int]
    exact narrow_of_fits fits.1 fits.2
  have port := toNat_port read fits.2
  have usual := build.httpDefault_pos
  unfold httpportArgument at moved
  simp only at moved
  split at moved
  · cases moved
  · next passed =>
    cases moved
    unfold minHttpPort at passed
    refine ⟨distinct.setHttp (port_ne port https) (port_ne port rtsp) (port_ne_zero port (by omega)),
      .inr ⟨?_, text, member, port⟩, .inl rfl, .inl rfl⟩
    unfold minHttpPort
    dsimp only
    omega

/-- An argument `rtspport` that meets the condition leaves the ports as they are. -/
theorem rtspportArgument_eq {arg : NetworkArgument} (meets : RtspportMeets ports arg.value) :
    rtspportArgument ports arg = ports := if_pos meets

/-- `uri_httpport` keeps the ports. -/
theorem uriHttpport_kept {args : List (List UInt8 × List UInt8)} (distinct : ports.Distinct)
    (meets : PortsMeet build ports (.uriHttpport args)) :
    PortsKept build ports (.uriHttpport args) := by
  let texts := PortCommand.texts (.uriHttpport args)
  refine argumentLoop_kept
    (fun now => now.Distinct ∧ PortsFrom build minHttpPort texts ports now) ?_
    ⟨distinct, .refl _ _⟩ meets
  intro now arg next member kept met moved
  unfold uriHttpportBody at moved
  split at moved
  · next named =>
    have text : arg.2 ∈ texts.http := mem_valuesOf member named
    have step := httpportArgument_kept kept.1 (met named) moved text
    exact ⟨step.1, kept.2.trans step.2⟩
  · cases moved
    exact kept

/-- `uri_network` keeps the ports. -/
theorem uriNetwork_kept {stops : List UInt8 × List UInt8 → Bool}
    {args : List NetworkArgument} (distinct : ports.Distinct)
    (meets : PortsMeet build ports (.uriNetwork stops args)) :
    PortsKept build ports (.uriNetwork stops args) := by
  let texts := PortCommand.texts (.uriNetwork stops args)
  refine argumentLoop_kept
    (fun now => now.Distinct ∧ PortsFrom build minHttpPort texts ports now) ?_
    ⟨distinct, .refl _ _⟩ meets
  intro now arg next member kept met moved
  unfold uriNetworkBody at moved
  split at moved
  · next named =>
    have text : arg.value ∈ texts.http :=
      mem_valuesOf (List.mem_map_of_mem (f := NetworkArgument.pair) member) named
    have step := httpportArgument_kept kept.1 (met.1 named) moved text
    exact ⟨step.1, kept.2.trans step.2⟩
  split at moved
  · next named =>
    rw [rtspportArgument_eq (met.2 named)] at moved
    cases moved
    exact kept
  split at moved
  · cases moved
  · cases moved
    exact kept

end Requests

/-! ## Runs -/

/-- A command or a request that meets the condition keeps the ports. -/
theorem portsKept_of_meets {build : PortBuild} {ports : Ports} {command : PortCommand}
    (distinct : ports.Distinct) (meets : PortsMeet build ports command) :
    PortsKept build ports command := by
  cases command with
  | setHttpport text => exact setHttpport_kept distinct meets
  | httpsPort text => exact httpsPort_kept distinct meets
  | setRtspport text => exact setRtspport_kept distinct meets
  | uriHttpport args => exact uriHttpport_kept distinct meets
  | uriNetwork stops args => exact uriNetwork_kept distinct meets

/-- In every run whose commands and requests meet the condition the three ports stay different
from each other and from zero, and a port that is stored is the number written and at least the
minimum or the default. -/
theorem ports_kept (build : PortBuild) (ports : Ports) (commands : List PortCommand)
    (distinct : ports.Distinct)
    (meets : Throughout (PortCommand.apply build) (PortsMeet build) ports commands) :
    Throughout (PortCommand.apply build) (PortsKept build) ports commands := by
  refine Throughout.of_invariant Ports.Distinct ?_ distinct meets
  intro now command distinct met
  have kept := portsKept_of_meets distinct met
  exact ⟨kept, kept.1⟩

/-- Limits of the entries and the usual defaults. -/
def usualPorts : PortBuild where
  httpMin := 1024
  httpMax := 65535
  httpsMin := 1024
  httpsMax := 65535
  rtspMin := 1
  rtspMax := 65535
  httpPortDefault := 80
  httpsPortDefault := 443
  httpMin_pos := by decide
  httpsMin_pos := by decide
  httpDefault_pos := by decide
  httpsDefault_pos := by decide

/-- Three commands and a request that meet the condition. -/
theorem ports_kept_usual :
    Throughout (PortCommand.apply usualPorts) (PortsKept usualPorts) ⟨80, 443, 554⟩
      [.setHttpport (ascii "8080"), .httpsPort (ascii "4430"), .setRtspport (ascii "5540"),
        .uriHttpport [(ascii "httpport", ascii "8081")]] := by
  refine ports_kept usualPorts _ _ (by decide) ?_
  refine ⟨?_, ?_, ?_, ?_, trivial⟩
  · intro _
    unfold Fits16
    decide
  · intro _
    unfold Fits16
    decide
  · intro _
    unfold Fits16
    decide
  · refine ⟨fun _ next moved _ => ?_, fun next moved => trivial⟩
    unfold Fits16
    decide

/-- The request `uri_httpport` takes the port of HTTPS, and the command `set_httpport` stores 80 for
65616. -/
theorem ports_collide :
    ¬Throughout (PortCommand.apply usualPorts) (PortsKept usualPorts) ⟨80, 443, 554⟩
      [.httpsPort (ascii "4430"), .uriHttpport [(ascii "httpport", ascii "4430")]] ∧
    ¬PortsKept usualPorts ⟨8080, 443, 554⟩ (.setHttpport (ascii "65616")) := by
  refine ⟨fun kept => ?_, fun kept => ?_⟩
  · exact absurd kept.2.1.1 (by decide)
  · rcases kept.2.http with same | ⟨-, text, member, number⟩
    · exact absurd same (by decide)
    · have only : text = ascii "65616" := by simpa [PortCommand.texts] using member
      rw [only] at number
      exact absurd number (by decide)

end BoaIpcam
