import CheshireLane.ConfigTexts

/-!
# The configuration form

The form of the desktop application shows a configuration as texts and makes one
out of texts. It shows nine versions and one server; everything else about versions
and servers is filled in automatically.
-/

namespace CheshireLane

/-- A server as the configuration lists it and the dispatch service sends it. -/
structure Serverinfo where
  ids : List UInt32
  ip : String
  port : UInt32
  state : UInt32
  name : String
  tagState : Option UInt32
  sort : Option UInt32
  proxyIp : Option String
  proxyPort : Option UInt32
  deriving DecidableEq

/-- `Config`: everything that the program reads from its file. -/
structure Config (SocketAddr : Type) where
  databaseUrl : String
  sdkHttpAddr : SocketAddr
  sdkHttpsAddr : SocketAddr
  sdkIp : String
  sdkProxyAddr : SocketAddr
  sdkProxyUpstreamAddr : SocketAddr
  dispatchAddr : SocketAddr
  gateAddr : SocketAddr
  dispatchIp : String
  dispatchPort : UInt16
  dispatchVersion : List String
  dispatchServers : List Serverinfo
  mitmCaCertPath : String
  mitmCaKeyPath : String
  tlsCertPath : String
  tlsKeyPath : String
  deriving DecidableEq

/-- `FormValues`: the texts of the form, one for each field. -/
structure FormValues where
  databaseUrl : String
  sdkHttpAddr : String
  sdkHttpsAddr : String
  sdkIp : String
  sdkProxyAddr : String
  sdkProxyUpstreamAddr : String
  dispatchAddr : String
  gateAddr : String
  dispatchIp : String
  dispatchPort : String
  mitmCaCertPath : String
  mitmCaKeyPath : String
  tlsCertPath : String
  tlsKeyPath : String
  dispatchVersionAzhash : String
  dispatchVersionCvhash : String
  dispatchVersionL2dhash : String
  dispatchVersionPichash : String
  dispatchVersionBgmhash : String
  dispatchVersionPaintinghash : String
  dispatchVersionMangahash : String
  dispatchVersionCipherhash : String
  dispatchVersionDormhash : String
  dispatchServerIp : String
  dispatchServerPort : String
  dispatchServerName : String
  deriving DecidableEq

/-- A version that is filled in automatically. -/
def isDTag (version : String) : Bool := "dTag-".toList.isPrefixOf version.toList

/-- `required`: the error names the label of the field. -/
def required (value label : String) : Except String String :=
  let value := trim value
  if value = "" then .error (label ++ " cannot be empty") else .ok value

/-- `required_path`. A path is any text that is not empty. -/
def requiredPath (value label : String) : Except String String := required value label

/-- `parse_port`, with two errors: for what is no number, and for zero. -/
def parsePort (value label : String) : Except String UInt16 :=
  match parseU16 (trim value) with
  | none => .error (label ++ " must be a number from 1 to 65535")
  | some port => if port = 0 then .error (label ++ " must be between 1 and 65535") else .ok port

/-- `advertised_ipv4`: refuses the two addresses that no client can connect to. They are the
unspecified address and the broadcast address. -/
def advertisedIpv4 (value label : String) : Except String String := do
  let value ← required value label
  match Ipv4Addr.parse value with
  | none => .error (label ++ " must be an IPv4 address")
  | some address =>
    if address.isUnspecified then
      .error (label ++ " cannot be 0.0.0.0 because clients cannot connect to a wildcard address")
    else if address.isBroadcast then
      .error (label ++ " cannot be the broadcast address 255.255.255.255")
    else .ok address.print

/-- The server entry that is emitted. -/
def dispatchServer (ip : String) (port : UInt16) (name : String) : Serverinfo where
  ids := [1]
  ip
  port := UInt32.ofNat port.toNat
  state := 0
  name
  tagState := some 2
  sort := some 0
  proxyIp := some ip
  proxyPort := some (UInt32.ofNat port.toNat)

/-- The version fields with their labels, in the order in which they are saved. -/
def FormValues.versions (form : FormValues) : List (String × String) :=
  [(form.dispatchVersionAzhash, "azhash version"), (form.dispatchVersionCvhash, "cvhash version"),
    (form.dispatchVersionL2dhash, "l2dhash version"), (form.dispatchVersionPichash, "pichash version"),
    (form.dispatchVersionBgmhash, "bgmhash version"),
    (form.dispatchVersionPaintinghash, "paintinghash version"),
    (form.dispatchVersionMangahash, "mangahash version"),
    (form.dispatchVersionCipherhash, "cipherhash version"),
    (form.dispatchVersionDormhash, "dormhash version")]

section

variable {SocketAddr : Type} (sockets : SocketTexts SocketAddr)

/-- `parse_socket`: port zero, which means any port, is refused in the desktop application. -/
def parseSocket (value label : String) : Except String SocketAddr :=
  match sockets.parse (trim value) with
  | none => .error (label ++ " must use IP:port format")
  | some address =>
    if sockets.port address = 0 then
      .error (label ++ " cannot use port 0 in the desktop application")
    else .ok address

/-- `FormValues::from_config`. It shows the first server, and the versions that are not tags, of
which there have to be nine. -/
def FormValues.fromConfig (config : Config SocketAddr) : Except String FormValues :=
  match config.dispatchVersion.filter fun version => !isDTag version with
  | [azhash, cvhash, l2dhash, pichash, bgmhash, paintinghash, mangahash, cipherhash, dormhash] =>
    match config.dispatchServers.head? with
    | none => .error "dispatch_servers must contain one server entry"
    | some server => .ok {
        databaseUrl := config.databaseUrl
        sdkHttpAddr := sockets.print config.sdkHttpAddr
        sdkHttpsAddr := sockets.print config.sdkHttpsAddr
        sdkIp := config.sdkIp
        sdkProxyAddr := sockets.print config.sdkProxyAddr
        sdkProxyUpstreamAddr := sockets.print config.sdkProxyUpstreamAddr
        dispatchAddr := sockets.print config.dispatchAddr
        gateAddr := sockets.print config.gateAddr
        dispatchIp := config.dispatchIp
        dispatchPort := toString config.dispatchPort.toNat
        mitmCaCertPath := config.mitmCaCertPath
        mitmCaKeyPath := config.mitmCaKeyPath
        tlsCertPath := config.tlsCertPath
        tlsKeyPath := config.tlsKeyPath
        dispatchVersionAzhash := azhash
        dispatchVersionCvhash := cvhash
        dispatchVersionL2dhash := l2dhash
        dispatchVersionPichash := pichash
        dispatchVersionBgmhash := bgmhash
        dispatchVersionPaintinghash := paintinghash
        dispatchVersionMangahash := mangahash
        dispatchVersionCipherhash := cipherhash
        dispatchVersionDormhash := dormhash
        dispatchServerIp := server.ip
        dispatchServerPort := toString server.port.toNat
        dispatchServerName := server.name }
  | _ => .error
      "dispatch_version must contain exactly nine hash entries plus the automatic dTag entry"

/-- `FormValues::into_config`. The checks end with the first one that fails. -/
def FormValues.intoConfig (form : FormValues) : Except String (Config SocketAddr) := do
  let databaseUrl ← required form.databaseUrl "Database URL"
  if !"sqlite:".toList.isPrefixOf databaseUrl.toList then
    throw "Database URL must be a SQLite URL such as sqlite://cheshire.sqlite"
  let sdkIp ← advertisedIpv4 form.sdkIp "SDK advertised IPv4"
  let dispatchIp ← advertisedIpv4 form.dispatchIp "Dispatch advertised IPv4"
  let dispatchPort ← parsePort form.dispatchPort "Dispatch advertised port"
  let serverIp ← advertisedIpv4 form.dispatchServerIp "Dispatch server IPv4"
  let serverPort ← parsePort form.dispatchServerPort "Dispatch server port"
  let serverName ← required form.dispatchServerName "Dispatch server name"
  let versions ← form.versions.mapM fun (value, label) => required value label
  let dispatchVersion := versions ++ ["dTag-1"]
  let dispatchServers := [dispatchServer serverIp serverPort serverName]
  let sdkHttpAddr ← parseSocket sockets form.sdkHttpAddr "SDK HTTP bind address"
  let sdkHttpsAddr ← parseSocket sockets form.sdkHttpsAddr "SDK HTTPS bind address"
  let sdkProxyAddr ← parseSocket sockets form.sdkProxyAddr "SDK proxy bind address"
  let sdkProxyUpstreamAddr ← parseSocket sockets form.sdkProxyUpstreamAddr "SDK proxy upstream"
  let dispatchAddr ← parseSocket sockets form.dispatchAddr "Dispatch bind address"
  let gateAddr ← parseSocket sockets form.gateAddr "Gate bind address"
  let mitmCaCertPath ← requiredPath form.mitmCaCertPath "MITM CA certificate path"
  let mitmCaKeyPath ← requiredPath form.mitmCaKeyPath "MITM CA key path"
  let tlsCertPath ← requiredPath form.tlsCertPath "SDK TLS certificate path"
  let tlsKeyPath ← requiredPath form.tlsKeyPath "SDK TLS key path"
  return {
    databaseUrl, sdkHttpAddr, sdkHttpsAddr, sdkIp, sdkProxyAddr, sdkProxyUpstreamAddr,
    dispatchAddr, gateAddr, dispatchIp, dispatchPort, dispatchVersion, dispatchServers,
    mitmCaCertPath, mitmCaKeyPath, tlsCertPath, tlsKeyPath }

/-- The rest goes on with the value. -/
theorem bind_ok {α β : Type} (value : α) (rest : α → Except String β) :
    (Except.ok value >>= rest) = rest value :=
  rfl

/-- A chain of checks accepts exactly if each of them does. -/
theorem ok_bind {α β : Type} {first : Except String α} {rest : α → Except String β} {result : β} :
    (first >>= rest) = .ok result ↔ ∃ value, first = .ok value ∧ rest value = .ok result := by
  cases first with
  | error error => exact ⟨nofun, fun ⟨_, impossible, _⟩ => nomatch impossible⟩
  | ok value =>
    rw [bind_ok]
    exact ⟨fun made => ⟨value, rfl, made⟩, fun ⟨_, rfl, made⟩ => made⟩

/-- The form passes every check, and the configuration holds what was read. -/
structure Accepted (form : FormValues) (config : Config SocketAddr) : Prop where
  databaseUrl : required form.databaseUrl "Database URL" = .ok config.databaseUrl
  sqlite : "sqlite:".toList.isPrefixOf config.databaseUrl.toList = true
  sdkIp : advertisedIpv4 form.sdkIp "SDK advertised IPv4" = .ok config.sdkIp
  dispatchIp : advertisedIpv4 form.dispatchIp "Dispatch advertised IPv4" = .ok config.dispatchIp
  dispatchPort : parsePort form.dispatchPort "Dispatch advertised port" = .ok config.dispatchPort
  server : ∃ ip port name,
    advertisedIpv4 form.dispatchServerIp "Dispatch server IPv4" = .ok ip ∧
      parsePort form.dispatchServerPort "Dispatch server port" = .ok port ∧
      required form.dispatchServerName "Dispatch server name" = .ok name ∧
      config.dispatchServers = [dispatchServer ip port name]
  versions : ∃ versions,
    (form.versions.mapM fun (value, label) => required value label) = .ok versions ∧
      config.dispatchVersion = versions ++ ["dTag-1"]
  sdkHttpAddr : parseSocket sockets form.sdkHttpAddr "SDK HTTP bind address" = .ok config.sdkHttpAddr
  sdkHttpsAddr :
    parseSocket sockets form.sdkHttpsAddr "SDK HTTPS bind address" = .ok config.sdkHttpsAddr
  sdkProxyAddr :
    parseSocket sockets form.sdkProxyAddr "SDK proxy bind address" = .ok config.sdkProxyAddr
  sdkProxyUpstreamAddr : parseSocket sockets form.sdkProxyUpstreamAddr "SDK proxy upstream" =
    .ok config.sdkProxyUpstreamAddr
  dispatchAddr :
    parseSocket sockets form.dispatchAddr "Dispatch bind address" = .ok config.dispatchAddr
  gateAddr : parseSocket sockets form.gateAddr "Gate bind address" = .ok config.gateAddr
  mitmCaCertPath :
    requiredPath form.mitmCaCertPath "MITM CA certificate path" = .ok config.mitmCaCertPath
  mitmCaKeyPath : requiredPath form.mitmCaKeyPath "MITM CA key path" = .ok config.mitmCaKeyPath
  tlsCertPath : requiredPath form.tlsCertPath "SDK TLS certificate path" = .ok config.tlsCertPath
  tlsKeyPath : requiredPath form.tlsKeyPath "SDK TLS key path" = .ok config.tlsKeyPath

/-- The form shows the configuration, with its first server. It has one field for each text, so that
later proofs need not look into `from_config`. -/
structure Shown (config : Config SocketAddr) (form : FormValues) : Prop where
  databaseUrl : form.databaseUrl = config.databaseUrl
  sdkHttpAddr : form.sdkHttpAddr = sockets.print config.sdkHttpAddr
  sdkHttpsAddr : form.sdkHttpsAddr = sockets.print config.sdkHttpsAddr
  sdkIp : form.sdkIp = config.sdkIp
  sdkProxyAddr : form.sdkProxyAddr = sockets.print config.sdkProxyAddr
  sdkProxyUpstreamAddr : form.sdkProxyUpstreamAddr = sockets.print config.sdkProxyUpstreamAddr
  dispatchAddr : form.dispatchAddr = sockets.print config.dispatchAddr
  gateAddr : form.gateAddr = sockets.print config.gateAddr
  dispatchIp : form.dispatchIp = config.dispatchIp
  dispatchPort : form.dispatchPort = toString config.dispatchPort.toNat
  mitmCaCertPath : form.mitmCaCertPath = config.mitmCaCertPath
  mitmCaKeyPath : form.mitmCaKeyPath = config.mitmCaKeyPath
  tlsCertPath : form.tlsCertPath = config.tlsCertPath
  tlsKeyPath : form.tlsKeyPath = config.tlsKeyPath
  versions : (config.dispatchVersion.filter fun version => !isDTag version) =
    form.versions.map Prod.fst
  server : ∃ server others, config.dispatchServers = server :: others ∧
    form.dispatchServerIp = server.ip ∧ form.dispatchServerPort = toString server.port.toNat ∧
      form.dispatchServerName = server.name

variable {sockets}

/-- A form comes out of a configuration just when it has nine versions and a server. These are the
two patterns that `from_config` matches: it fails on any other number of untagged versions, and on a
configuration without a server. -/
theorem from_config_succeeds {config : Config SocketAddr} :
    (∃ form, FormValues.fromConfig sockets config = .ok form) ↔
      (config.dispatchVersion.filter fun version => !isDTag version).length = 9 ∧
        config.dispatchServers ≠ [] := by
  constructor
  · rintro ⟨form, shown⟩
    unfold FormValues.fromConfig at shown
    split at shown
    · rename_i versions
      rw [versions]
      cases servers : config.dispatchServers with
      | nil =>
        rw [servers] at shown
        exact nomatch shown
      | cons server others => exact ⟨rfl, nofun⟩
    · exact nomatch shown
  · rintro ⟨nine, served⟩
    obtain ⟨server, others, servers⟩ := List.exists_cons_of_ne_nil served
    match versions : config.dispatchVersion.filter fun version => !isDTag version, nine with
    | [azhash, cvhash, l2dhash, pichash, bgmhash, paintinghash, mangahash, cipherhash, dormhash], _ =>
      rw [FormValues.fromConfig, versions, servers]
      exact ⟨_, rfl⟩

/-- What the form shows of a configuration, in one fact. All that follows about forms is derived
from it. The record has one field for each field of the form, so that later proofs never look into
`from_config` again. -/
theorem from_config_shown {config : Config SocketAddr} {form : FormValues}
    (result : FormValues.fromConfig sockets config = .ok form) : Shown sockets config form := by
  unfold FormValues.fromConfig at result
  split at result
  · rename_i versions
    cases servers : config.dispatchServers with
    | nil =>
      rw [servers] at result
      exact nomatch result
    | cons server others =>
      rw [servers] at result
      cases result
      exact {
        databaseUrl := rfl
        sdkHttpAddr := rfl
        sdkHttpsAddr := rfl
        sdkIp := rfl
        sdkProxyAddr := rfl
        sdkProxyUpstreamAddr := rfl
        dispatchAddr := rfl
        gateAddr := rfl
        dispatchIp := rfl
        dispatchPort := rfl
        mitmCaCertPath := rfl
        mitmCaKeyPath := rfl
        tlsCertPath := rfl
        tlsKeyPath := rfl
        versions
        server := ⟨server, others, servers, rfl, rfl, rfl⟩ }
  · exact nomatch result

/-- A configuration comes out of a form just when the form passes every check. The checks are made
one after the other, and each may be the one that fails; so the record of all of them is what
success amounts to. -/
theorem into_config_iff {form : FormValues} {config : Config SocketAddr} :
    form.intoConfig sockets = .ok config ↔ Accepted sockets form config := by
  constructor
  · intro result
    obtain ⟨databaseUrl, readDatabaseUrl, result⟩ := ok_bind.mp result
    by_cases sqlite : "sqlite:".toList.isPrefixOf databaseUrl.toList
    · rw [sqlite] at result
      simp only [Bool.not_true, Bool.false_eq_true, if_false, ok_bind] at result
      obtain ⟨sdkIp, readSdkIp, dispatchIp, readDispatchIp, dispatchPort, readDispatchPort,
        serverIp, readServerIp, serverPort, readServerPort, serverName, readServerName,
        versions, readVersions, sdkHttpAddr, readSdkHttpAddr, sdkHttpsAddr, readSdkHttpsAddr,
        sdkProxyAddr, readSdkProxyAddr, sdkProxyUpstreamAddr, readSdkProxyUpstreamAddr,
        dispatchAddr, readDispatchAddr, gateAddr, readGateAddr, mitmCaCertPath, readMitmCaCertPath,
        mitmCaKeyPath, readMitmCaKeyPath, tlsCertPath, readTlsCertPath, tlsKeyPath, readTlsKeyPath,
        made⟩ := result
      cases made
      exact {
        databaseUrl := readDatabaseUrl
        sqlite
        sdkIp := readSdkIp
        dispatchIp := readDispatchIp
        dispatchPort := readDispatchPort
        server := ⟨serverIp, serverPort, serverName, readServerIp, readServerPort, readServerName, rfl⟩
        versions := ⟨versions, readVersions, rfl⟩
        sdkHttpAddr := readSdkHttpAddr
        sdkHttpsAddr := readSdkHttpsAddr
        sdkProxyAddr := readSdkProxyAddr
        sdkProxyUpstreamAddr := readSdkProxyUpstreamAddr
        dispatchAddr := readDispatchAddr
        gateAddr := readGateAddr
        mitmCaCertPath := readMitmCaCertPath
        mitmCaKeyPath := readMitmCaKeyPath
        tlsCertPath := readTlsCertPath
        tlsKeyPath := readTlsKeyPath }
    · rw [Bool.eq_false_iff.mpr sqlite] at result
      exact nomatch result
  · intro accepted
    obtain ⟨ip, port, name, readIp, readPort, readName, server⟩ := accepted.server
    obtain ⟨versions, readVersions, version⟩ := accepted.versions
    simp only [FormValues.intoConfig, bind_ok, accepted.databaseUrl, accepted.sqlite, Bool.not_true,
      Bool.false_eq_true, if_false, accepted.sdkIp, accepted.dispatchIp, accepted.dispatchPort,
      readIp, readPort, readName, readVersions,
      accepted.sdkHttpAddr, accepted.sdkHttpsAddr, accepted.sdkProxyAddr,
      accepted.sdkProxyUpstreamAddr, accepted.dispatchAddr, accepted.gateAddr,
      accepted.mitmCaCertPath, accepted.mitmCaKeyPath, accepted.tlsCertPath, accepted.tlsKeyPath,
      ← version, ← server]
    rfl

end

end CheshireLane
