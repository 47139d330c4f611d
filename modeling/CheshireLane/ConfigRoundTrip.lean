import CheshireLane.ConfigEditor

/-!
# Loading and saving a configuration

Every check of the form passes on its own result, so an accepted form is shown again
and saved unchanged, unless one of its versions reads like the automatic entry: the
form counts the versions without these, and then there are fewer than nine. Saving a
configuration that is shown keeps everything but the other servers.
-/

namespace CheshireLane

/-! ## A check passes on its own result -/

/-- `required` accepts exactly the texts that are more than white space, and trims them. -/
theorem required_ok {text label value : String} :
    required text label = .ok value ↔ value = trim text ∧ value ≠ "" := by
  unfold required
  by_cases empty : trim text = ""
  · simp only [empty, if_true]
    exact ⟨nofun, fun ⟨same, nonempty⟩ => absurd same nonempty⟩
  · simp only [empty, if_false, Except.ok.injEq]
    exact ⟨fun same => ⟨same.symm, same ▸ empty⟩, fun ⟨same, _⟩ => same.symm⟩

/-- What a required field was read as is read as itself. -/
theorem required_again {text label value : String} (read : required text label = .ok value)
    (label' : String) : required value label' = .ok value := by
  obtain ⟨rfl, nonempty⟩ := required_ok.mp read
  exact required_ok.mpr ⟨(trim_trimmed text).symm, nonempty⟩

/-- `parse_port` accepts exactly the numbers of 16 bits other than zero. -/
theorem parse_port_ok {text label : String} {port : UInt16} :
    parsePort text label = .ok port ↔ parseU16 (trim text) = some port ∧ port ≠ 0 := by
  unfold parsePort
  cases parseU16 (trim text) with
  | none => exact ⟨nofun, fun ⟨impossible, _⟩ => nomatch impossible⟩
  | some value =>
    by_cases zero : value = 0
    · simp only [zero, if_true, Option.some.injEq]
      exact ⟨nofun, fun ⟨same, positive⟩ => absurd same.symm positive⟩
    · simp only [zero, if_false, Except.ok.injEq, Option.some.injEq]
      exact ⟨fun same => ⟨same, same ▸ zero⟩, fun ⟨same, _⟩ => same⟩

/-- A number is shown without white space around it. -/
theorem trim_number (value : Nat) : trim (toString value) = toString value := by
  refine trim_visible _ fun char member => digit_visible ?_
  rw [decimal_text, String.toList_ofList] at member
  exact decimal_digits value char member

/-- A port that was accepted is accepted again as it is shown. -/
theorem parse_port_again {text label : String} {port : UInt16} (read : parsePort text label = .ok port)
    (label' : String) : parsePort (toString port.toNat) label' = .ok port := by
  obtain ⟨_, positive⟩ := parse_port_ok.mp read
  exact parse_port_ok.mpr ⟨by rw [trim_number, parse_port_text], positive⟩

/-- The text is an address, and the other text is that address in canonical form. -/
def Canonical (text canonical : String) : Prop :=
  ∃ address, Ipv4Addr.parse (trim text) = some address ∧ canonical = address.print

/-- `advertised_ipv4` accepts exactly the addresses that a client can reach, and prints them in
canonical form. The address is printed by the same code that every other address is printed by, so
reading it again gives it back. -/
theorem advertised_ok {text label ip : String} :
    advertisedIpv4 text label = .ok ip ↔
      ∃ address, Ipv4Addr.parse (trim text) = some address ∧ address.isUnspecified = false ∧
        address.isBroadcast = false ∧ ip = address.print := by
  rw [advertisedIpv4, ok_bind]
  constructor
  · rintro ⟨value, read, rest⟩
    obtain ⟨rfl, _⟩ := required_ok.mp read
    cases parsed : Ipv4Addr.parse (trim text) with
    | none =>
      rw [parsed] at rest
      exact nomatch rest
    | some address =>
      simp only [parsed] at rest
      split at rest
      · exact nomatch rest
      · split at rest
        · exact nomatch rest
        · rename_i specified single
          exact ⟨address, rfl, Bool.eq_false_iff.mpr specified, Bool.eq_false_iff.mpr single,
            (Except.ok.inj rest).symm⟩
  · rintro ⟨address, parsed, specified, single, rfl⟩
    have nonempty : trim text ≠ "" := by
      intro empty
      rw [empty] at parsed
      exact absurd parsed (by simp [show Ipv4Addr.parse "" = none by decide])
    refine ⟨trim text, required_ok.mpr ⟨rfl, nonempty⟩, ?_⟩
    simp only [parsed, specified, single, Bool.false_eq_true, if_false]

/-- An address that was accepted is the canonical form of the text. -/
theorem advertised_canonical {text label ip : String} (read : advertisedIpv4 text label = .ok ip) :
    Canonical text ip := by
  obtain ⟨address, parsed, _, _, printed⟩ := advertised_ok.mp read
  exact ⟨address, parsed, printed⟩

/-- An address that was accepted is accepted again and comes out the same, since the canonical form
is parsed to the same address. -/
theorem advertised_again {text label ip : String} (read : advertisedIpv4 text label = .ok ip)
    (label' : String) : advertisedIpv4 ip label' = .ok ip := by
  obtain ⟨address, _, specified, single, rfl⟩ := advertised_ok.mp read
  exact advertised_ok.mpr
    ⟨address, by rw [address.trim_print, address.parse_print], specified, single, rfl⟩

/-- A list of required fields is read as their texts without white space, none of them empty. By
induction on the fields: `mapM` stops at the first one that is refused. -/
theorem required_all {fields : List (String × String)} {values : List String} :
    (fields.mapM fun (value, label) => required value label) = .ok values ↔
      values = fields.map (fun field => trim field.1) ∧ ∀ value ∈ values, value ≠ "" := by
  induction fields generalizing values with
  | nil =>
    rw [List.mapM_nil, List.map_nil]
    constructor
    · intro read
      cases read
      exact ⟨rfl, nofun⟩
    · rintro ⟨rfl, _⟩
      rfl
  | cons field fields inductionHypothesis =>
    simp only [List.mapM_cons, ok_bind, required_ok, inductionHypothesis]
    constructor
    · rintro ⟨value, ⟨rfl, nonempty⟩, rest, ⟨rfl, filled⟩, made⟩
      cases made
      exact ⟨rfl, List.forall_mem_cons.mpr ⟨nonempty, filled⟩⟩
    · rintro ⟨rfl, filled⟩
      obtain ⟨nonempty, filled⟩ := List.forall_mem_cons.mp filled
      exact ⟨_, ⟨rfl, nonempty⟩, _, ⟨rfl, filled⟩, rfl⟩

section

variable {SocketAddr : Type} {sockets : SocketTexts SocketAddr}

/-- `parse_socket` accepts exactly the texts that parse to an address with a port. -/
theorem parse_socket_ok {text label : String} {address : SocketAddr} :
    parseSocket sockets text label = .ok address ↔
      sockets.parse (trim text) = some address ∧ sockets.port address ≠ 0 := by
  unfold parseSocket
  cases sockets.parse (trim text) with
  | none => exact ⟨nofun, fun ⟨impossible, _⟩ => nomatch impossible⟩
  | some value =>
    by_cases zero : sockets.port value = 0
    · simp only [zero, if_true, Option.some.injEq]
      exact ⟨nofun, fun ⟨same, positive⟩ => absurd (same ▸ zero) positive⟩
    · simp only [zero, if_false, Except.ok.injEq, Option.some.injEq]
      exact ⟨fun same => ⟨same, same ▸ zero⟩, fun ⟨same, _⟩ => same⟩

/-- An address that was accepted is accepted again as it is printed. -/
theorem parse_socket_again {text label : String} {address : SocketAddr}
    (read : parseSocket sockets text label = .ok address) (label' : String) :
    parseSocket sockets (sockets.print address) label' = .ok address := by
  obtain ⟨_, positive⟩ := parse_socket_ok.mp read
  exact parse_socket_ok.mpr ⟨by rw [sockets.trim_print, sockets.parse_print], positive⟩

/-- An address that is shown is saved as itself. -/
theorem parse_socket_shown {address saved : SocketAddr} {label : String}
    (read : parseSocket sockets (sockets.print address) label = .ok saved) : saved = address := by
  obtain ⟨parsed, _⟩ := parse_socket_ok.mp read
  rw [sockets.trim_print, sockets.parse_print] at parsed
  exact (Option.some.inj parsed).symm

/-! ## An accepted form is shown again -/

/-- The automatic version is not counted, the others are unless they read like it. -/
theorem nine_versions (versions : List String) :
    (versions ++ ["dTag-1"]).filter (fun version => !isDTag version) =
      versions.filter fun version => !isDTag version := by
  have automatic : isDTag "dTag-1" = true := by decide
  rw [List.filter_append, List.filter_singleton, automatic]
  exact List.append_nil _

/-- The versions of an accepted form are counted just when none of them reads like the
automatic one. -/
theorem versions_kept {form : FormValues} {versions : List String}
    (read : (form.versions.mapM fun (value, label) => required value label) = .ok versions) :
    (versions.filter fun version => !isDTag version).length = 9 ↔
      ∀ field ∈ form.versions, isDTag (trim field.1) = false := by
  obtain ⟨same, _⟩ := required_all.mp read
  have nine : versions.length = 9 := by rw [same, List.length_map]; rfl
  rw [← nine, List.length_filter_eq_length_iff, same, List.forall_mem_map]
  simp only [Bool.not_eq_true']

/-- The versions that are shown are those that were read. They are trimmed already, so trimming them
again changes nothing. None of them is taken for a tag, since nine are counted. -/
theorem shown_versions {form shown : FormValues} {config : Config SocketAddr}
    (accepted : Accepted sockets form config) (displayed : Shown sockets config shown) :
    ∃ versions, (shown.versions.mapM fun (value, label) => required value label) = .ok versions ∧
      config.dispatchVersion = versions ++ ["dTag-1"] := by
  obtain ⟨versions, read, version⟩ := accepted.versions
  obtain ⟨same, filled⟩ := required_all.mp read
  have kept : shown.versions.map Prod.fst = versions := by
    have counted : (versions.filter fun version => !isDTag version).length = versions.length := by
      rw [← nine_versions, ← version, displayed.versions, same, List.length_map, List.length_map]
      rfl
    rw [← displayed.versions, version, nine_versions]
    exact List.filter_eq_self.mpr (List.length_filter_eq_length_iff.mp counted)
  have trimmed : versions = (shown.versions.map Prod.fst).map trim := by
    rw [kept, same, List.map_map]
    exact List.map_congr_left fun field _ => (trim_trimmed field.1).symm
  rw [List.map_map] at trimmed
  exact ⟨versions, required_all.mpr ⟨trimmed, filled⟩, version⟩

/-- The server that is shown is the one that was emitted. The port goes through 32 bits and back,
which loses nothing of a number of 16. -/
theorem shown_server {form shown : FormValues} {config : Config SocketAddr}
    (accepted : Accepted sockets form config) (displayed : Shown sockets config shown) :
    ∃ ip port name,
      advertisedIpv4 shown.dispatchServerIp "Dispatch server IPv4" = .ok ip ∧
        parsePort shown.dispatchServerPort "Dispatch server port" = .ok port ∧
        required shown.dispatchServerName "Dispatch server name" = .ok name ∧
        config.dispatchServers = [dispatchServer ip port name] := by
  obtain ⟨ip, port, name, readIp, readPort, readName, emitted⟩ := accepted.server
  obtain ⟨server, others, servers, showIp, showPort, showName⟩ := displayed.server
  rw [emitted, List.cons.injEq] at servers
  obtain ⟨rfl, _⟩ := servers
  have number : (dispatchServer ip port name).port.toNat = port.toNat :=
    UInt32.toNat_ofNat_of_lt' (Nat.lt_trans port.toNat_lt (by decide))
  refine ⟨ip, port, name, ?_, ?_, ?_, emitted⟩
  · rw [showIp]
    exact advertised_again readIp _
  · rw [showPort, number]
    exact parse_port_again readPort _
  · rw [showName]
    exact required_again readName _

/-- What an accepted form was read as passes every check in the form that shows it. Each check reads
the text that an earlier check wrote, for which every kind of check has a lemma of its own. -/
theorem shown_accepted {form shown : FormValues} {config : Config SocketAddr}
    (accepted : Accepted sockets form config) (displayed : Shown sockets config shown) :
    Accepted sockets shown config where
  databaseUrl := by rw [displayed.databaseUrl]; exact required_again accepted.databaseUrl _
  sqlite := accepted.sqlite
  sdkIp := by rw [displayed.sdkIp]; exact advertised_again accepted.sdkIp _
  dispatchIp := by rw [displayed.dispatchIp]; exact advertised_again accepted.dispatchIp _
  dispatchPort := by rw [displayed.dispatchPort]; exact parse_port_again accepted.dispatchPort _
  server := shown_server accepted displayed
  versions := shown_versions accepted displayed
  sdkHttpAddr := by rw [displayed.sdkHttpAddr]; exact parse_socket_again accepted.sdkHttpAddr _
  sdkHttpsAddr := by rw [displayed.sdkHttpsAddr]; exact parse_socket_again accepted.sdkHttpsAddr _
  sdkProxyAddr := by rw [displayed.sdkProxyAddr]; exact parse_socket_again accepted.sdkProxyAddr _
  sdkProxyUpstreamAddr := by
    rw [displayed.sdkProxyUpstreamAddr]
    exact parse_socket_again accepted.sdkProxyUpstreamAddr _
  dispatchAddr := by rw [displayed.dispatchAddr]; exact parse_socket_again accepted.dispatchAddr _
  gateAddr := by rw [displayed.gateAddr]; exact parse_socket_again accepted.gateAddr _
  mitmCaCertPath := by rw [displayed.mitmCaCertPath]; exact required_again accepted.mitmCaCertPath _
  mitmCaKeyPath := by rw [displayed.mitmCaKeyPath]; exact required_again accepted.mitmCaKeyPath _
  tlsCertPath := by rw [displayed.tlsCertPath]; exact required_again accepted.tlsCertPath _
  tlsKeyPath := by rw [displayed.tlsKeyPath]; exact required_again accepted.tlsKeyPath _

/-- An accepted form is shown again and saved unchanged just when none of its versions reads like
the automatic one.

Collecting writes nine versions and the automatic one, and showing drops what reads like an
automatic one and asks for nine. So it succeeds just when it drops one. -/
theorem accepted_form_shown_iff (sockets : SocketTexts SocketAddr) (form : FormValues)
    (config : Config SocketAddr) (accepted : form.intoConfig sockets = .ok config) :
    (∃ shown, FormValues.fromConfig sockets config = .ok shown ∧
        shown.intoConfig sockets = .ok config) ↔
      ∀ field ∈ form.versions, isDTag (trim field.1) = false := by
  have checks := into_config_iff.mp accepted
  obtain ⟨versions, read, version⟩ := checks.versions
  obtain ⟨_, _, _, _, _, _, emitted⟩ := checks.server
  have succeeds : (∃ shown, FormValues.fromConfig sockets config = .ok shown) ↔
      ∀ field ∈ form.versions, isDTag (trim field.1) = false := by
    rw [from_config_succeeds, version, nine_versions, versions_kept read, emitted]
    exact and_iff_left (List.cons_ne_nil _ _)
  rw [← succeeds]
  constructor
  · rintro ⟨shown, displayed, _⟩
    exact ⟨shown, displayed⟩
  · rintro ⟨shown, displayed⟩
    exact ⟨shown, displayed,
      into_config_iff.mpr (shown_accepted checks (from_config_shown displayed))⟩

end

/-- The default configuration as the form shows it. -/
def defaultForm : FormValues where
  databaseUrl := "sqlite://cheshire.sqlite"
  sdkHttpAddr := "0.0.0.0:21080"
  sdkHttpsAddr := "0.0.0.0:21443"
  sdkIp := "127.0.0.1"
  sdkProxyAddr := "0.0.0.0:28080"
  sdkProxyUpstreamAddr := "127.0.0.1:21080"
  dispatchAddr := "0.0.0.0:21180"
  gateAddr := "0.0.0.0:21280"
  dispatchIp := "127.0.0.1"
  dispatchPort := "21180"
  mitmCaCertPath := "assets/ca/ca-cert.cer"
  mitmCaKeyPath := "assets/ca/ca-key.pem"
  tlsCertPath := "assets/tls/cert.pem"
  tlsKeyPath := "assets/tls/key.pem"
  dispatchVersionAzhash := "$azhash$9$3$256$a2fb234a59d9334e"
  dispatchVersionCvhash := "$cvhash$1226$2b97118c875c9dc1"
  dispatchVersionL2dhash := "$l2dhash$1342$3f9df9533aa7a4b5"
  dispatchVersionPichash := "$pichash$88$c3b73b182d063d1e"
  dispatchVersionBgmhash := "$bgmhash$81$0fc7c41e6a6ce609"
  dispatchVersionPaintinghash := "$paintinghash$951$9c94dec2d2744cdc"
  dispatchVersionMangahash := "$mangahash$789$6118789616ba7e71"
  dispatchVersionCipherhash := "$cipherhash$157$be7e81e6eccd62ad"
  dispatchVersionDormhash := "$dormhash$612$bee6ebaaf3370f58"
  dispatchServerIp := "127.0.0.1"
  dispatchServerPort := "21280"
  dispatchServerName := "CheshireDev"

/-- `Config::default`: the values of the default file. -/
def defaultConfig : Config SocketAddrV4 where
  databaseUrl := "sqlite://cheshire.sqlite"
  sdkHttpAddr := ⟨⟨0, 0, 0, 0⟩, 21080⟩
  sdkHttpsAddr := ⟨⟨0, 0, 0, 0⟩, 21443⟩
  sdkIp := "127.0.0.1"
  sdkProxyAddr := ⟨⟨0, 0, 0, 0⟩, 28080⟩
  sdkProxyUpstreamAddr := ⟨⟨127, 0, 0, 1⟩, 21080⟩
  dispatchAddr := ⟨⟨0, 0, 0, 0⟩, 21180⟩
  gateAddr := ⟨⟨0, 0, 0, 0⟩, 21280⟩
  dispatchIp := "127.0.0.1"
  dispatchPort := 21180
  dispatchVersion := [
    "$azhash$9$3$256$a2fb234a59d9334e",
    "$cvhash$1226$2b97118c875c9dc1",
    "$l2dhash$1342$3f9df9533aa7a4b5",
    "$pichash$88$c3b73b182d063d1e",
    "$bgmhash$81$0fc7c41e6a6ce609",
    "$paintinghash$951$9c94dec2d2744cdc",
    "$mangahash$789$6118789616ba7e71",
    "$cipherhash$157$be7e81e6eccd62ad",
    "$dormhash$612$bee6ebaaf3370f58",
    "dTag-1"]
  dispatchServers := [
    ⟨[1], "127.0.0.1", 21280, 0, "CheshireDev", some 2, some 0, some "127.0.0.1", some 21280⟩]
  mitmCaCertPath := "assets/ca/ca-cert.cer"
  mitmCaKeyPath := "assets/ca/ca-key.pem"
  tlsCertPath := "assets/tls/cert.pem"
  tlsKeyPath := "assets/tls/key.pem"

/-- The form that shows the default configuration is collected to it. -/
theorem default_accepted : defaultForm.intoConfig socketTextsV4 = .ok defaultConfig := by
  decide +kernel

/-- The default configuration can be shown. -/
theorem default_shown : FormValues.fromConfig socketTextsV4 defaultConfig = .ok defaultForm := by
  decide +kernel

/-- The default versions are all counted, so none of them reads like the automatic one. -/
theorem default_versions : ∀ field ∈ defaultForm.versions, isDTag (trim field.1) = false := by
  obtain ⟨versions, read, version⟩ := (into_config_iff.mp default_accepted).versions
  have nine := (from_config_succeeds.mp ⟨defaultForm, default_shown⟩).1
  rw [version, nine_versions, versions_kept read] at nine
  exact nine

/-- The default configuration is shown and saved unchanged. -/
theorem accepted_form_shown_iff_default :
    ∃ shown, FormValues.fromConfig socketTextsV4 defaultConfig = .ok shown ∧
      shown.intoConfig socketTextsV4 = .ok defaultConfig :=
  (accepted_form_shown_iff socketTextsV4 defaultForm defaultConfig default_accepted).mpr
    default_versions

/-- An accepted form stays accepted with another first version. Only the check of the versions looks
at it, and it asks for a text that is trimmed and not empty. -/
theorem azhash_replaced {SocketAddr : Type} {sockets : SocketTexts SocketAddr} {form : FormValues}
    {config : Config SocketAddr} (accepted : Accepted sockets form config) (version : String)
    (trimmed : trim version = version) (nonempty : version ≠ "") :
    Accepted sockets { form with dispatchVersionAzhash := version }
      { config with dispatchVersion := version :: config.dispatchVersion.tail } := by
  obtain ⟨versions, read, saved⟩ := accepted.versions
  obtain ⟨same, filled⟩ := required_all.mp read
  have rest : versions.tail = form.versions.tail.map fun field => trim field.1 := by
    rw [same, List.map_tail]
  have some : versions ≠ [] := by
    rw [same]
    exact List.cons_ne_nil _ _
  refine { accepted with versions := ⟨version :: versions.tail, required_all.mpr ⟨?_, ?_⟩, ?_⟩ }
  · rw [rest]
    exact congrArg (· :: _) trimmed.symm
  · exact List.forall_mem_cons.mpr
      ⟨nonempty, fun value member => filled value (List.mem_of_mem_tail member)⟩
  · rw [saved, List.tail_append_of_ne_nil some, List.cons_append]

/-- The default form with one version that reads like the automatic one. -/
def taggedForm : FormValues := { defaultForm with dispatchVersionAzhash := "dTag-2" }

/-- The configuration that this form is collected to. -/
def taggedConfig : Config SocketAddrV4 :=
  { defaultConfig with dispatchVersion := "dTag-2" :: defaultConfig.dispatchVersion.tail }

/-- A form is accepted that is never shown again. Its first version is a tag, so the editor finds
eight versions besides the tags where it needs nine. -/
theorem tagged_version_locked :
    ¬ ∀ (form : FormValues) (config : Config SocketAddrV4),
      form.intoConfig socketTextsV4 = .ok config →
        ∃ shown, FormValues.fromConfig socketTextsV4 config = .ok shown ∧
          shown.intoConfig socketTextsV4 = .ok config := by
  intro shownAgain
  have tag : trim "dTag-2" = "dTag-2" := by decide +kernel
  have accepted : Accepted socketTextsV4 taggedForm taggedConfig :=
    azhash_replaced (into_config_iff.mp default_accepted) "dTag-2" tag (by decide)
  obtain ⟨shown, displayed, _⟩ := shownAgain taggedForm taggedConfig (into_config_iff.mpr accepted)
  -- The tag is not counted, and with it one version is missing.
  obtain ⟨versions, read, version⟩ := accepted.versions
  have nine := (from_config_succeeds.mp ⟨shown, displayed⟩).1
  rw [version, nine_versions, versions_kept read] at nine
  have untagged := nine ("dTag-2", "azhash version") List.mem_cons_self
  rw [tag] at untagged
  exact absurd untagged (by decide)

/-! ## A configuration that is shown is saved -/

/-- A number that is shown is read as itself. -/
theorem parse_port_number {number : UInt32} {port : UInt16} {label : String}
    (read : parsePort (toString number.toNat) label = .ok port) :
    UInt32.ofNat port.toNat = number := by
  obtain ⟨parsed, _⟩ := parse_port_ok.mp read
  rw [trim_number, parseU16, parse_to_string, if_pos number.toNat_lt, Option.bind_some,
    UInt32.ofNat_toNat] at parsed
  split at parsed
  · rename_i small
    rw [← Option.some.inj parsed, UInt16.toNat_ofNat_of_lt' small, UInt32.ofNat_toNat]
  · cases parsed

/-- The entry that is emitted for a server. -/
def SavedServer (server saved : Serverinfo) : Prop :=
  ∃ ip, Canonical server.ip ip ∧ saved = {
    ids := [1]
    ip
    port := server.port
    state := 0
    name := trim server.name
    tagState := some 2
    sort := some 0
    proxyIp := some ip
    proxyPort := some server.port }

/-- What is saved of a configuration: everything up to white space and the form of addresses,
with the automatic version at the end, and one server. -/
structure Saved {SocketAddr : Type} (config saved : Config SocketAddr) : Prop where
  databaseUrl : saved.databaseUrl = trim config.databaseUrl
  sdkHttpAddr : saved.sdkHttpAddr = config.sdkHttpAddr
  sdkHttpsAddr : saved.sdkHttpsAddr = config.sdkHttpsAddr
  sdkIp : Canonical config.sdkIp saved.sdkIp
  sdkProxyAddr : saved.sdkProxyAddr = config.sdkProxyAddr
  sdkProxyUpstreamAddr : saved.sdkProxyUpstreamAddr = config.sdkProxyUpstreamAddr
  dispatchAddr : saved.dispatchAddr = config.dispatchAddr
  gateAddr : saved.gateAddr = config.gateAddr
  dispatchIp : Canonical config.dispatchIp saved.dispatchIp
  dispatchPort : saved.dispatchPort = config.dispatchPort
  nine : (config.dispatchVersion.filter fun version => !isDTag version).length = 9
  dispatchVersion : saved.dispatchVersion =
    (config.dispatchVersion.filter fun version => !isDTag version).map trim ++ ["dTag-1"]
  dispatchServers : ∃ server others emitted, config.dispatchServers = server :: others ∧
    saved.dispatchServers = [emitted] ∧ SavedServer server emitted
  mitmCaCertPath : saved.mitmCaCertPath = trim config.mitmCaCertPath
  mitmCaKeyPath : saved.mitmCaKeyPath = trim config.mitmCaKeyPath
  tlsCertPath : saved.tlsCertPath = trim config.tlsCertPath
  tlsKeyPath : saved.tlsKeyPath = trim config.tlsKeyPath

section

variable {SocketAddr : Type} {sockets : SocketTexts SocketAddr}

/-- Of the servers the first one is saved, with the values of the form, which shows them. -/
theorem saved_server {config saved : Config SocketAddr} {form : FormValues}
    (displayed : Shown sockets config form) (accepted : Accepted sockets form saved) :
    ∃ server others emitted, config.dispatchServers = server :: others ∧
      saved.dispatchServers = [emitted] ∧ SavedServer server emitted := by
  obtain ⟨server, others, servers, showIp, showPort, showName⟩ := displayed.server
  obtain ⟨ip, port, name, readIp, readPort, readName, emitted⟩ := accepted.server
  rw [showIp] at readIp
  rw [showPort] at readPort
  rw [showName] at readName
  have number : UInt32.ofNat port.toNat = server.port := parse_port_number readPort
  have named : name = trim server.name := (required_ok.mp readName).1
  refine ⟨server, others, dispatchServer ip port name, servers, emitted,
    ip, advertised_canonical readIp, ?_⟩
  rw [dispatchServer, number, named]

/-- The versions are saved without the automatic ones, trimmed, and with one automatic one behind.
-/
theorem saved_versions {config saved : Config SocketAddr} {form : FormValues}
    (displayed : Shown sockets config form) (accepted : Accepted sockets form saved) :
    saved.dispatchVersion =
      (config.dispatchVersion.filter fun version => !isDTag version).map trim ++ ["dTag-1"] := by
  obtain ⟨versions, read, version⟩ := accepted.versions
  obtain ⟨same, _⟩ := required_all.mp read
  rw [version, displayed.versions, List.map_map]
  exact congrArg (· ++ ["dTag-1"]) same

/-- What is saved of a configuration that was shown, put together field by field. The lemmas say for
each kind of field what is saved of its text when it is read again. -/
theorem saved_of_shown {config saved : Config SocketAddr} {form : FormValues}
    (displayed : Shown sockets config form) (accepted : Accepted sockets form saved) :
    Saved config saved where
  databaseUrl := displayed.databaseUrl ▸ (required_ok.mp accepted.databaseUrl).1
  sdkHttpAddr := parse_socket_shown (displayed.sdkHttpAddr ▸ accepted.sdkHttpAddr)
  sdkHttpsAddr := parse_socket_shown (displayed.sdkHttpsAddr ▸ accepted.sdkHttpsAddr)
  sdkIp := displayed.sdkIp ▸ advertised_canonical accepted.sdkIp
  sdkProxyAddr := parse_socket_shown (displayed.sdkProxyAddr ▸ accepted.sdkProxyAddr)
  sdkProxyUpstreamAddr :=
    parse_socket_shown (displayed.sdkProxyUpstreamAddr ▸ accepted.sdkProxyUpstreamAddr)
  dispatchAddr := parse_socket_shown (displayed.dispatchAddr ▸ accepted.dispatchAddr)
  gateAddr := parse_socket_shown (displayed.gateAddr ▸ accepted.gateAddr)
  dispatchIp := displayed.dispatchIp ▸ advertised_canonical accepted.dispatchIp
  dispatchPort := by
    have read := (parse_port_ok.mp accepted.dispatchPort).1
    rw [displayed.dispatchPort, trim_number, parse_port_text] at read
    exact (Option.some.inj read).symm
  nine := by rw [displayed.versions, List.length_map]; rfl
  dispatchVersion := saved_versions displayed accepted
  dispatchServers := saved_server displayed accepted
  mitmCaCertPath := displayed.mitmCaCertPath ▸ (required_ok.mp accepted.mitmCaCertPath).1
  mitmCaKeyPath := displayed.mitmCaKeyPath ▸ (required_ok.mp accepted.mitmCaKeyPath).1
  tlsCertPath := displayed.tlsCertPath ▸ (required_ok.mp accepted.tlsCertPath).1
  tlsKeyPath := displayed.tlsKeyPath ▸ (required_ok.mp accepted.tlsKeyPath).1

/-- Opening and saving a configuration keeps everything but the servers after the first.

What is shown and what is accepted are each known field by field, and the two are put together. -/
theorem opened_config_saved (sockets : SocketTexts SocketAddr) (config saved : Config SocketAddr)
    (form : FormValues) (shown : FormValues.fromConfig sockets config = .ok form)
    (accepted : form.intoConfig sockets = .ok saved) :
    Saved config saved ∧
      (saved.dispatchServers.length = config.dispatchServers.length ↔
        config.dispatchServers.length = 1) := by
  have kept := saved_of_shown (from_config_shown shown) (into_config_iff.mp accepted)
  obtain ⟨_, _, _, _, single, _⟩ := kept.dispatchServers
  refine ⟨kept, ?_⟩
  rw [single, List.length_singleton]
  exact eq_comm

end

/-- The default configuration with a second server. -/
def twoServers : Config SocketAddrV4 :=
  { defaultConfig with
    dispatchServers := defaultConfig.dispatchServers ++ [dispatchServer "127.0.0.2" 21281 "Second"] }

/-- The second server is not shown. -/
theorem two_servers_shown : FormValues.fromConfig socketTextsV4 twoServers = .ok defaultForm :=
  default_shown

/-- A configuration with two servers is saved with one, so the number of servers is not kept. -/
theorem opened_config_saved_two_servers :
    Saved twoServers defaultConfig ∧
      (defaultConfig.dispatchServers.length = twoServers.dispatchServers.length ↔
        twoServers.dispatchServers.length = 1) :=
  opened_config_saved socketTextsV4 twoServers defaultConfig defaultForm two_servers_shown
    default_accepted

/-- The second server is lost. -/
theorem second_server_dropped :
    ¬ ∀ (config saved : Config SocketAddrV4) (form : FormValues),
      FormValues.fromConfig socketTextsV4 config = .ok form →
        form.intoConfig socketTextsV4 = .ok saved →
          saved.dispatchServers.length = config.dispatchServers.length := by
  intro kept
  exact absurd (kept twoServers defaultConfig defaultForm two_servers_shown default_accepted)
    (by decide)

end CheshireLane
