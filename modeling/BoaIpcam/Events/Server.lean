import BoaIpcam.Events.Command

/-!
# Event servers

`set_event_server` and `del_event_server`. A server is reached by SMTP or FTP, or it is the SAMBA
share or the SD card; at most one slot has each of the last two. `del_event_server` answers `OK`
and leaves the loop by a `break`, behind which it answers `NG`, and its list of entries misses
`SMTP_ENCRYPTION`.
-/
namespace BoaIpcam.Events

open FlatTables

/-- The parameters of `set_event_server`, `ES_*`. -/
inductive ServerParameter where
  | type | name | user | pass | fqdn | port | mailFrom | mailTo | path | passive | workgroup
  | wins | encrypt
deriving DecidableEq, Repr

/-- A server of the type SMTP. -/
structure Smtp where
  /-- Whether the mail is encrypted. -/
  encryption : Nat
  /-- The port. -/
  port : Nat
  /-- The host. -/
  fqdn : List UInt8
  /-- The user. -/
  username : List UInt8
  /-- The password. -/
  password : List UInt8
  /-- The sender. -/
  fromMail : List UInt8
  /-- The receiver. -/
  toMail : List UInt8

/-- A server of the type FTP. -/
structure Ftp where
  /-- Whether the mode is passive. -/
  passiveMode : Nat
  /-- The port. -/
  port : Nat
  /-- The host. -/
  fqdn : List UInt8
  /-- The user. -/
  username : List UInt8
  /-- The password. -/
  password : List UInt8
  /-- The directory. -/
  path : List UInt8

/-- A server of the type SAMBA. -/
structure Samba where
  /-- The host. -/
  fqdn : List UInt8
  /-- The user. -/
  username : List UInt8
  /-- The password. -/
  password : List UInt8
  /-- The workgroup. -/
  workgroup : List UInt8

/-- The constants of the commands for servers. -/
structure ServerValues where
  /-- `E2G_SERVER_PARA_NUM`. -/
  paraNum : Nat
  /-- Where each parameter stands. -/
  position : ServerParameter → Nat
  /-- The parameters stand in the order of their texts. -/
  ordered : position .name < position .user ∧ position .user < position .pass ∧
    position .pass < position .fqdn ∧ position .fqdn < position .port ∧
    position .mailFrom < position .mailTo ∧ position .mailTo < position .path ∧
    position .path < position .passive ∧ position .workgroup < position .wins
  /-- `ESERVER_TYPE_*`. -/
  typeSmtp : UInt16
  /-- The type of FTP servers. -/
  typeFtp : UInt16
  /-- The type of SAMBA shares. -/
  typeSamba : UInt16
  /-- The type of the SD card. -/
  typeSd : UInt16
  /-- The types are different. -/
  types_ne : [typeSmtp, typeFtp, typeSamba, typeSd].Nodup
  /-- The size of the array of the structure that is stored in an entry. -/
  arraySize : ServerField → Nat
  /-- What `strlen` finds behind a host of SMTP that fills its array. -/
  smtpOverrun : Smtp → List UInt8

/-- What is read behind the type. A type that is not known keeps its number. -/
inductive ServerSettings where
  | smtp (smtp : Smtp)
  | ftp (ftp : Ftp)
  | samba (samba : Samba)
  | sd
  | unknown (type : Nat)

/-- The structure `EVENT_2G_SERVER`. -/
structure Server where
  /-- The number of the slot. -/
  id : Nat
  /-- The name. -/
  name : List UInt8
  /-- The settings of its type. -/
  settings : ServerSettings

section Handlers

variable (build : Build) (values : ServerValues)

/-- The parameters of SMTP. The host may fill its array. -/
def readSmtp (ptr : List (List UInt8)) : Smtp where
  encryption := narrow 8 (atoi (behind ptr (values.position .encrypt)))
  port := narrow 16 (atoi (behind ptr (values.position .port)))
  fqdn := between ptr (values.arraySize .smtpFqdn) (values.position .fqdn) (values.position .port)
  username := between ptr (values.arraySize .smtpUsername - 1) (values.position .user)
    (values.position .pass)
  password := between ptr (values.arraySize .smtpPassword - 1) (values.position .pass)
    (values.position .fqdn)
  fromMail := between ptr (values.arraySize .smtpFromMail - 1) (values.position .mailFrom)
    (values.position .mailTo)
  toMail := between ptr (values.arraySize .smtpToMail - 1) (values.position .mailTo)
    (values.position .path)

/-- The parameters of FTP. -/
def readFtp (ptr : List (List UInt8)) : Ftp where
  passiveMode := narrow 8 (atoi (behind ptr (values.position .passive)))
  port := narrow 16 (atoi (behind ptr (values.position .port)))
  fqdn := between ptr (values.arraySize .ftpFqdn - 1) (values.position .fqdn)
    (values.position .port)
  username := between ptr (values.arraySize .ftpUsername - 1) (values.position .user)
    (values.position .pass)
  password := between ptr (values.arraySize .ftpPassword - 1) (values.position .pass)
    (values.position .fqdn)
  path := between ptr (values.arraySize .ftpPath - 1) (values.position .path)
    (values.position .passive)

/-- The parameters of SAMBA. -/
def readSamba (ptr : List (List UInt8)) : Samba where
  fqdn := between ptr (values.arraySize .sambaFqdn - 1) (values.position .fqdn)
    (values.position .port)
  username := between ptr (values.arraySize .sambaUsername - 1) (values.position .user)
    (values.position .pass)
  password := between ptr (values.arraySize .sambaPassword - 1) (values.position .pass)
    (values.position .fqdn)
  workgroup := between ptr (values.arraySize .sambaWorkgroup - 1) (values.position .workgroup)
    (values.position .wins)

/-- The parameters of the type that is asked for. -/
def readSettings (ptr : List (List UInt8)) : ServerSettings :=
  let type := narrow 16 (atoi (behind ptr (values.position .type)))
  if type = 0 then .smtp (readSmtp values ptr)
  else if type = 1 then .ftp (readFtp values ptr)
  else if type = 3 then .samba (readSamba values ptr)
  else if type = 4 then .sd
  else .unknown type

/-- The parameters of a server. -/
def readServer (text : List UInt8) (ptr : List (List UInt8)) : Server where
  id := slotOf text
  name := between ptr (build.nameSize - 1) (values.position .name) (values.position .user)
  settings := readSettings values ptr

/-- The first slot with a type. The loop looks one slot behind the table as well. -/
def slotWithType (info : SysInfo) (type : UInt16) : Option Nat :=
  (List.range (build.layout.size .server + 1)).find? fun i : Nat =>
    build.u16 (build.entry info .server i ServerField.type) = type.toNat

/-- Another slot has the type. -/
def takenElsewhere (info : SysInfo) (type : UInt16) (id : Nat) : Bool :=
  match slotWithType build info type with
  | none => false
  | some i => id ≠ i

/-- The tests on the parameters of a type. -/
def settingsTests (info : SysInfo) (id : Nat) : ServerSettings → List Test
  | .smtp smtp => [⟨smtp.port = 0, .wrong⟩]
  | .ftp ftp => [⟨ftp.port = 0, .wrong⟩, ⟨build.special ftp.path, .wrong⟩,
      ⟨1 < ftp.passiveMode, .wrong⟩]
  | .samba _ => [⟨takenElsewhere build info values.typeSamba id, .wrong⟩]
  | .sd => [⟨takenElsewhere build info values.typeSd id, .wrong⟩]
  | .unknown _ => [⟨true, .ng []⟩]

/-- The tests of `set_event_server`, in their order. -/
def serverTests (info : SysInfo) (server : Server) : List Test :=
  [⟨build.layout.size .server ≤ server.id, .wrong⟩, ⟨server.name = [], .wrong⟩,
    ⟨build.special server.name, .wrong⟩] ++
    settingsTests build values info server.id server.settings

/-- The type that is stored. -/
def ServerSettings.type (values : ServerValues) : ServerSettings → Nat
  | .smtp _ => values.typeSmtp.toNat
  | .ftp _ => values.typeFtp.toNat
  | .samba _ => values.typeSamba.toNat
  | .sd => values.typeSd.toNat
  | .unknown type => type

/-- The text that is stored as the host of SMTP. -/
def Smtp.host (values : ServerValues) (smtp : Smtp) : List UInt8 :=
  if smtp.fqdn.length < values.arraySize .smtpFqdn then smtp.fqdn
  else smtp.fqdn ++ values.smtpOverrun smtp

/-- The entries of a type that are written. Members that are not set are zero or empty. -/
def settingsWrites : ServerSettings → List (ServerField × Datum)
  | .ftp ftp =>
    [(.ftpPassiveMode, .num ftp.passiveMode), (.ftpUploadRate, .num 0), (.ftpPort, .num ftp.port),
      (.ftpFqdn, .text ftp.fqdn), (.ftpUsername, .text ftp.username),
      (.ftpPassword, .text ftp.password), (.ftpPath, .text ftp.path)]
  | .smtp smtp =>
    [(.smtpAttachNum, .num 0), (.smtpEncryption, .num smtp.encryption), (.smtpPort, .num smtp.port),
      (.smtpFqdn, .text (smtp.host values)), (.smtpUsername, .text smtp.username),
      (.smtpPassword, .text smtp.password), (.smtpFromMail, .text smtp.fromMail),
      (.smtpToMail, .text smtp.toMail)]
  | .samba samba =>
    [(.sambaAuthority, .num 0), (.sambaWins, .num 0), (.sambaFqdn, .text samba.fqdn),
      (.sambaUsername, .text samba.username), (.sambaPassword, .text samba.password),
      (.sambaPath, .text []), (.sambaWorkgroup, .text samba.workgroup)]
  | .sd => [(.sdPath, .text [])]
  | .unknown _ => []

/-- The entries of a server that are written. -/
def serverWrites (server : Server) : List (ServerField × Datum) :=
  [(.valid, .num 1), (.enable, .num 0), (.id, .num server.id),
    (.type, .num (server.settings.type values)), (.name, .text server.name)] ++
    settingsWrites values server.settings

/-- `set_event_server`. -/
def setEventServer (info : SysInfo) (text : List UInt8) : Outcome :=
  command values.paraNum text
    (fun ptr => serverTests build values info (readServer build values text ptr))
    fun ptr => ⟨build.layout.slotWrites .server (slotOf text)
      (serverWrites values (readServer build values text ptr)), [.done]⟩

/-- The entries that `del_event_server` resets. -/
def serverResets : List ServerField :=
  [.valid, .enable, .id, .type, .name,
    .ftpPassiveMode, .ftpUploadRate, .ftpPort, .ftpFqdn, .ftpUsername, .ftpPassword, .ftpPath,
    .smtpAttachNum, .smtpPort, .smtpFqdn, .smtpUsername, .smtpPassword, .smtpFromMail, .smtpToMail,
    .sambaAuthority, .sambaWins, .sambaFqdn, .sambaUsername, .sambaPassword, .sambaPath,
    .sambaWorkgroup,
    .sdPath]

/-- `del_event_server`. The switch over the stored number knows the mount points of five slots. -/
def delEventServer (info : SysInfo) (text : List UInt8) : Outcome :=
  let id := narrow 32 (atoi text)
  if build.layout.size .server ≤ id then .answer (.ng [])
  else if 4 < build.u8 (build.entry info .server id ServerField.id) then .answer (.ng [])
  else ⟨build.resets .server id serverResets, [.ok [], .ng []]⟩

end Handlers

/-! ## The limits -/

section Limits

variable {build : Build} {values : ServerValues} {info : SysInfo} {server : Server}

/-- What `set_event_server` tests of an entry. -/
def serverLimit (build : Build) (values : ServerValues) : ServerField → Datum → Prop
  | .valid, datum => datum.Is (· = 1)
  | .id, datum => datum.Is fun id => 0 ≤ id ∧ id < build.layout.size .server
  | .type, datum => datum.Is fun type =>
      type = values.typeSmtp.toNat ∨ type = values.typeFtp.toNat ∨
        type = values.typeSamba.toNat ∨ type = values.typeSd.toNat
  | .name, datum => datum.IsText fun name => name ≠ [] ∧ build.special name = false
  | .ftpPort, datum => datum.Is (· ≠ 0)
  | .smtpPort, datum => datum.Is (· ≠ 0)
  | .ftpPassiveMode, datum => datum.Is fun mode => 0 ≤ mode ∧ mode ≤ 1
  | .ftpPath, datum => datum.IsText fun path => build.special path = false
  | _, _ => True

/-- The tests of `set_event_server` answer with refusals. -/
theorem serverTests_refuse : ∀ test ∈ serverTests build values info server, test.answer.Refuses := by
  have wrong : Line.wrong.Refuses := .inl rfl
  have plain : (Line.ng []).Refuses := .inr (.inr (.inr rfl))
  cases settings : server.settings <;>
    simp [serverTests, settingsTests, settings, wrong, plain]

/-- What is written for a type keeps the limits. -/
theorem settingsWrites_limit
    (passed : ∀ test ∈ settingsTests build values info server.id server.settings,
      test.fails = false) :
    ∀ write ∈ settingsWrites values server.settings,
      serverLimit build values write.1 write.2 := by
  cases settings : server.settings with
  | smtp smtp =>
    have port : smtp.port ≠ 0 := by simpa [settings, settingsTests] using passed
    simp [settingsWrites, serverLimit, Datum.Is, port]
  | ftp ftp =>
    have tests : ftp.port ≠ 0 ∧ build.special ftp.path = false ∧ ftp.passiveMode ≤ 1 := by
      simpa [settings, settingsTests] using passed
    have mode : (ftp.passiveMode : Int) ≤ 1 := by omega
    simp [settingsWrites, serverLimit, Datum.Is, Datum.IsText, tests, mode]
  | samba samba => simp [settingsWrites, serverLimit]
  | sd => simp [settingsWrites, serverLimit]
  | unknown type => simp [settingsWrites]

/-- A type that passes the tests is one of the four. -/
theorem settings_type_known
    (passed : ∀ test ∈ settingsTests build values info server.id server.settings,
      test.fails = false) :
    server.settings.type values = values.typeSmtp.toNat ∨
      server.settings.type values = values.typeFtp.toNat ∨
      server.settings.type values = values.typeSamba.toNat ∨
      server.settings.type values = values.typeSd.toNat := by
  cases settings : server.settings with
  | smtp smtp => exact .inl rfl
  | ftp ftp => exact .inr (.inl rfl)
  | samba samba => exact .inr (.inr (.inl rfl))
  | sd => exact .inr (.inr (.inr rfl))
  | unknown type =>
    have fails := passed ⟨true, .ng []⟩ (by simp [settings, settingsTests])
    cases fails

/-- What `set_event_server` writes keeps the limits. -/
theorem serverWrites_limit
    (passed : ∀ test ∈ serverTests build values info server, test.fails = false) :
    ∀ write ∈ serverWrites values server, serverLimit build values write.1 write.2 := by
  have both := List.forall_mem_append.mp passed
  have common : server.id < build.layout.size .server ∧ server.name ≠ [] ∧
      build.special server.name = false := by simpa using both.1
  have type := settings_type_known both.2
  intro write member
  rcases List.mem_append.mp member with first | rest
  · clear member
    revert write
    simpa [serverLimit, Datum.Is, Datum.IsText, common] using type
  · exact settingsWrites_limit both.2 write rest

/-- `set_event_server` is all or nothing exactly when a text that passes the tests starts with the
number of a slot. -/
theorem setEventServer_allOrNothing (text : List UInt8) :
    AllOrNothing build .server (serverLimit build values) text
        (setEventServer build values info text) ↔
      ∀ ptr, Passes values.paraNum text
          (fun ptr => serverTests build values info (readServer build values text ptr)) ptr →
        SlotFits text := by
  unfold setEventServer
  rw [allOrNothing_command (fun _ => serverTests_refuse) (fun _ => by simp [serverWrites])]
  constructor
  · intro all ptr passes
    exact (all ptr passes).1
  · intro fits ptr passes
    exact ⟨fits ptr passes, rfl, serverWrites_limit passes.passed⟩

end Limits

/-! ## One share and one card -/

section Single

variable {build : Build} {values : ServerValues} {info : SysInfo} {text : List UInt8}
  {type : UInt16}

/-- A slot of the table has a type. -/
def HasType (build : Build) (info : SysInfo) (i : Nat) (type : UInt16) : Prop :=
  build.u16 (build.entry info .server i ServerField.type) = type.toNat

/-- At most one slot has a type. -/
def AtMostOne (build : Build) (info : SysInfo) (type : UInt16) : Prop :=
  ∀ i j, i < build.layout.size .server → j < build.layout.size .server →
    HasType build info i type → HasType build info j type → i = j

/-- When no other slot is found to have a type, the slots with it are this one. -/
theorem eq_of_not_takenElsewhere {id i : Nat} (single : AtMostOne build info type)
    (free : takenElsewhere build info type id = false) (inside : i < build.layout.size .server)
    (id_inside : id < build.layout.size .server) (has : HasType build info i type) : i = id := by
  unfold takenElsewhere at free
  cases found : slotWithType build info type with
  | none =>
    have no := List.find?_eq_none.mp found i (List.mem_range.mpr (by omega))
    exact absurd (by simpa [HasType] using has) no
  | some first =>
    rw [found] at free
    have same : id = first := by simpa using free
    have matched : HasType build info first type := by
      simpa [HasType] using List.find?_some found
    rw [← same] at matched
    exact single i id inside id_inside has matched

/-- Every entry of a server is written once. -/
theorem serverWrites_once (values : ServerValues) (server : Server) :
    ((serverWrites values server).map Prod.fst).Nodup := by
  unfold serverWrites
  cases server.settings <;> simp [settingsWrites]

/-- The type of the slot that `set_event_server` writes. -/
theorem serverType_written {slot : Nat} {server : Server} {lines : List Line} :
    build.entry (Outcome.after ⟨build.layout.slotWrites .server slot (serverWrites values server),
      lines⟩ info) .server slot ServerField.type = .num (server.settings.type values) :=
  entry_written_once (serverWrites_once values server) (by simp [serverWrites])

/-- A change of one slot keeps at most one slot of a type, when the slot has the type afterwards
only if no other slot had it. -/
theorem AtMostOne.of_slot {next : SysInfo} {id : Nat} (single : AtMostOne build info type)
    (other : ∀ i, i ≠ id → HasType build next i type → HasType build info i type)
    (own : HasType build next id type → ∀ i, i < build.layout.size .server →
      HasType build info i type → i = id) :
    AtMostOne build next type := by
  intro i j i_inside j_inside i_has j_has
  by_cases i_own : i = id
  · by_cases j_own : j = id
    · rw [i_own, j_own]
    · rw [i_own] at i_has
      exact absurd (own i_has j j_inside (other j j_own j_has)) j_own
  · by_cases j_own : j = id
    · rw [j_own] at j_has
      exact absurd (own j_has i i_inside (other i i_own i_has)) i_own
    · exact single i j i_inside j_inside (other i i_own i_has) (other j j_own j_has)

/-- `set_event_server` keeps at most one slot of a type that it does not give away twice. -/
theorem setEventServer_atMostOne (single : AtMostOne build info type)
    (guarded : ∀ server, (∀ test ∈ serverTests build values info server, test.fails = false) →
      server.settings.type values = type.toNat →
        takenElsewhere build info type server.id = false) :
    AtMostOne build ((setEventServer build values info text).after info) type := by
  unfold setEventServer
  rcases after_command info with ⟨ptr, passes, after⟩ | same
  · rw [after]
    have tests := passes.passed
    have inside : slotOf text < build.layout.size .server := by
      simpa using tests ⟨build.layout.size .server ≤ slotOf text, .wrong⟩ List.mem_cons_self
    apply single.of_slot
    · intro i other has
      rwa [HasType, entry_other_slot other] at has
    · intro has i i_inside i_has
      have type_eq : (readServer build values text ptr).settings.type values = type.toNat := by
        have known := settings_type_known (List.forall_mem_append.mp tests).2
        have small : (readServer build values text ptr).settings.type values < 2 ^ 16 := by
          have smtp := values.typeSmtp.toNat_lt
          have ftp := values.typeFtp.toNat_lt
          have samba := values.typeSamba.toNat_lt
          have sd := values.typeSd.toNat_lt
          omega
        rw [HasType, serverType_written, Build.u16, Build.word] at has
        have fits := @narrow_of_fits 16 _ (Int.natCast_nonneg _) (by exact_mod_cast small)
        rw [has] at fits
        exact_mod_cast fits.symm
      exact eq_of_not_takenElsewhere single (guarded _ tests type_eq) i_inside inside i_has
  · rw [same]
    exact single

/-- No two types have one number. -/
theorem types_apart (values : ServerValues) :
    values.typeSmtp.toNat ≠ values.typeSamba.toNat ∧ values.typeFtp.toNat ≠ values.typeSamba.toNat ∧
      values.typeSd.toNat ≠ values.typeSamba.toNat ∧ values.typeSmtp.toNat ≠ values.typeSd.toNat ∧
      values.typeFtp.toNat ≠ values.typeSd.toNat := by
  have apart := values.types_ne
  simp only [List.nodup_cons, List.mem_cons, List.not_mem_nil, or_false, not_or] at apart
  simp only [ne_eq, UInt16.toNat_inj]
  exact ⟨apart.1.2.1, apart.2.1.1, fun same => apart.2.2.1 same.symm, apart.1.2.2, apart.2.1.2⟩

/-- A server of the type SAMBA or SD passes the tests only if no other slot has its type. -/
theorem share_guarded {server : Server} (share : type = values.typeSamba ∨ type = values.typeSd)
    (passed : ∀ test ∈ serverTests build values info server, test.fails = false)
    (same : server.settings.type values = type.toNat) :
    takenElsewhere build info type server.id = false := by
  have apart := types_apart values
  have tests := (List.forall_mem_append.mp passed).2
  cases settings : server.settings with
  | smtp smtp =>
    rw [settings] at same
    rcases share with rfl | rfl
    · exact absurd same apart.1
    · exact absurd same apart.2.2.2.1
  | ftp ftp =>
    rw [settings] at same
    rcases share with rfl | rfl
    · exact absurd same apart.2.1
    · exact absurd same apart.2.2.2.2
  | samba samba =>
    rw [settings] at same
    rcases share with rfl | rfl
    · simpa [settings, settingsTests] using tests
    · exact absurd same.symm apart.2.2.1
  | sd =>
    rw [settings] at same
    rcases share with rfl | rfl
    · exact absurd same apart.2.2.1
    · simpa [settings, settingsTests] using tests
  | unknown number =>
    have fails := tests ⟨true, .ng []⟩ (by simp [settings, settingsTests])
    cases fails

/-- `del_event_server` keeps at most one slot of a type that is not the default. -/
theorem delEventServer_atMostOne (single : AtMostOne build info type)
    (other : ∀ slot, slot < build.layout.size .server →
      build.u16 (build.defaultOf (build.layout.address .server slot ServerField.type)) ≠
        type.toNat) :
    AtMostOne build ((delEventServer build info text).after info) type := by
  unfold delEventServer
  simp only
  split
  · exact single
  · split
    · exact single
    · rename_i inside known
      have listed : ServerField.type ∈ serverResets := by decide
      apply single.of_slot
      · intro i apart has
        rwa [HasType, Build.resets, entry_other_slot apart] at has
      · intro has
        have number : ServerField.type ∉ Table.texts .server := by decide
        rw [HasType, entry_reset listed, Build.resetOf_number number] at has
        exact absurd has (other _ (by omega))

end Single

end BoaIpcam.Events
