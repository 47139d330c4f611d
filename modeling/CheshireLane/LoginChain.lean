import CheshireLane.DispatchService
import CheshireLane.SdkNicknames

/-!
# From the SDK to the gate

A player logs in at the SDK, which tells the account's uid as a text. The client hands
that text to the dispatch service, which answers with the number to log in at the gate
with. All three look at the same account table, though at different times. So the
number is the uid of the account, and the gate finds the account under it.
-/

namespace CheshireLane

open Transitions

/-- Uids are counted from one. -/
structure AccountTable.Counted (table : AccountTable) : Prop where
  sequence : 0 ≤ table.sequence
  rows : ∀ row ∈ table.rows, 0 < row.uid

/-- `get_account`. -/
def AccountTable.getAccount (table : AccountTable) (uid : UInt32) : Option Account :=
  (table.rows.find? fun row => row.uid = (uid.toNat : Int)).map fun row => ⟨row.uid⟩

/-- A registered account is found by the gate. -/
theorem AccountTable.registered_known {table : AccountTable} {name token : String} {uid : UInt32}
    (registered : table.Registered name token uid.toNat) : (table.getAccount uid).isSome = true := by
  obtain ⟨row, member, _, _, same⟩ := registered
  unfold getAccount
  rw [← same, Option.isSome_map, Sdk.row_by_uid member]
  rfl

/-- An account has one name. -/
theorem AccountTable.registered_name {table : AccountTable} {left right token token' : String}
    {uid : Int} (first : table.Registered left token uid)
    (second : table.Registered right token' uid) : left = right := by
  obtain ⟨row, member, named, _, same⟩ := first
  obtain ⟨other, member', named', _, same'⟩ := second
  obtain rfl := List.inj_on_of_nodup_map table.uids member member' (same.trans same'.symm)
  exact Option.some.inj (named.symm.trans named')

namespace Sdk

/-- No statement of a job removes an account. -/
theorem taken_kept {table next : AccountTable} {drawn : String} {now : Int} {job : Job}
    {outcome : Started} (taken : Taken table drawn now job next outcome) :
    AccountTable.Kept table next := by
  cases taken with
  | created req next inserted => exact AccountTable.kept_created inserted
  | reported req account next kept =>
    rcases kept with rfl | rfl
    · exact .refl _
    · exact AccountTable.kept_cleared _
  | renamed uid value | unaffected uid value => exact kept_renamed uid value
  | _ => exact .refl _

/-- No statement of a job spoils the count: a new account takes the next uid. The other statements
change neither the uids nor the sequence. -/
theorem taken_counted {table next : AccountTable} {drawn : String} {now : Int} {job : Job}
    {outcome : Started} (counted : table.Counted) (taken : Taken table drawn now job next outcome) :
    next.Counted := by
  cases taken with
  | created req next inserted =>
    have sequence := counted.sequence
    refine ⟨by rw [created_sequence inserted]; omega, ?_⟩
    rw [AccountTable.created_rows inserted]
    refine List.forall_mem_append.mpr ⟨counted.rows, List.forall_mem_singleton.mpr ?_⟩
    show 0 < table.sequence + 1
    omega
  | reported req account next kept =>
    rcases kept with rfl | rfl
    · exact counted
    · refine ⟨counted.sequence, fun row member => ?_⟩
      obtain ⟨old, inside, rfl⟩ := List.mem_map.mp member
      rw [AccountTable.lower_flag_uid]
      exact counted.rows old inside
  | renamed uid value | unaffected uid value =>
    refine ⟨counted.sequence, fun row member => ?_⟩
    obtain ⟨old, inside, rfl⟩ := List.mem_map.mp member
    rw [AccountTable.rename_uid]
    exact counted.rows old inside
  | _ => exact counted

/-- A step leaves the table alone or takes a statement on it. A request that is received and one
whose statement fails leave the table as it is. -/
theorem step_table {host : Host} {server next : Server} {event : Event} {note : Note}
    (taken : (service host).step server event = some (next, note)) :
    next.table = server.table ∨
      ∃ drawn now job outcome, Taken server.table drawn now job next.table outcome := by
  have settled : ∀ (server : Server) id http job outcome,
      (settle server id http job outcome).1.table = server.table := by
    intro server id http job outcome
    cases outcome <;> rfl
  cases event with
  | receive id http drawn =>
    simp only [service] at taken
    split at taken
    · cases taken
    · have same := settled server id http none (start host http drawn)
      rw [Option.some.inj taken] at same
      exact .inl same
  | advance id drawn now fails =>
    obtain ⟨⟨http, job⟩, _, moved⟩ := Option.map_eq_some_iff.mp taken
    have same := settled { server with table := (statement server.table drawn now fails job).table } id
      http (some job) (statement server.table drawn now fails job).outcome
    simp only at moved
    rw [moved] at same
    have taken := statement_taken server.table drawn now fails job
    exact .inr ⟨drawn, now, job, _, by rwa [show next.table = _ from same]⟩

/-- Over a run no account is removed. By induction on the events. -/
theorem run_kept (host : Host) (events : List Event) (server last : Server) (notes : List Note)
    (ran : (service host).run server events = some (last, notes)) :
    AccountTable.Kept server.table last.table := by
  refine Machine.run_always (fun _ state => AccountTable.Kept server.table state.table) ?_ events
    server last notes (.refl _) ran
  intro _ state event next note kept taken
  rcases step_table taken with same | ⟨_, _, _, _, moved⟩
  · rw [same]
    exact kept
  · exact kept.trans (taken_kept moved)

/-- Over a run the uids stay counted from one. By induction on the events. -/
theorem run_counted (host : Host) (events : List Event) (server last : Server) (notes : List Note)
    (counted : server.table.Counted)
    (ran : (service host).run server events = some (last, notes)) : last.table.Counted := by
  refine Machine.run_always (fun _ state => state.table.Counted) ?_ events server last notes counted
    ran
  intro _ state event next note counted taken
  rcases step_table taken with same | ⟨_, _, _, _, moved⟩
  · rw [same]
    exact counted
  · exact taken_counted counted moved

/-- What a login has shown is a counted account, and the dispatch service reads its uid. The uid is
positive and at most the sequence, so it fits 32 bits and its text is read as it was printed. -/
theorem shown_account {host : Host} {first : AccountTable} {notes : List Note} {server : Server}
    (reflected : Reflected host first notes server) (counted : server.table.Counted)
    (few : server.table.sequence < 4294967296) {note : Note} (member : note ∈ notes)
    {req : LoginReq} {user : SdkUser} (shown : LoginShown note req user) :
    ∃ uid : UInt32, server.table.Registered req.userName user.userInfo.token uid.toNat ∧
      parseU32 user.userInfo.id = some uid := by
  obtain ⟨value, registered, text⟩ := reflected.shown note member req user shown
  obtain ⟨row, inside, _, _, rfl⟩ := id registered
  have positive := counted.rows row inside
  have bound := server.table.issued row inside
  obtain ⟨uid, same⟩ : ∃ uid : Nat, row.uid = uid := ⟨row.uid.toNat, by omega⟩
  rw [same] at registered text
  have small : uid < 4294967296 := by omega
  refine ⟨UInt32.ofNat uid, ?_, ?_⟩
  · rw [UInt32.toNat_ofNat_of_lt' small]
    exact registered
  · rw [text]
    exact (parse_to_string uid).trans (if_pos small)

/-- A login at the SDK leads to the gate.

Its answer names a uid that the dispatch service reads off it, which no answer to
another name does. At any later time the gate accepts a login with that uid and a right
key, unless the player is banned or a read fails, and binds the connection to it. -/
theorem login_reaches_gate {Text : Type} (host : Host) (first : AccountTable) (events : List Event)
    (server : Server) (notes : List Note)
    (ran : (service host).run ⟨first, fun _ => none⟩ events = some (server, notes))
    (counted : first.Counted) (few : server.table.sequence < 4294967296)
    (note : Note) (member : note ∈ notes) (req : LoginReq) (user : SdkUser)
    (shown : LoginShown note req user) :
    ∃ uid : UInt32, server.table.Registered req.userName user.userInfo.token uid.toNat ∧
      (∀ (dispatch : Dispatch) (request : Cs10020), request.arg2 = some user.userInfo.id →
        (dispatch.login request).accountId = uid) ∧
      (∀ other ∈ notes, ∀ req' user', LoginShown other req' user' →
        req'.userName ≠ req.userName → ∀ (dispatch : Dispatch) (request : Cs10020),
          request.arg2 = some user'.userInfo.id → (dispatch.login request).accountId ≠ uid) ∧
      ∀ later last notes', (service host).run server later = some (last, notes') →
        ∀ (gate : Gate Text) (arrival : Arrival Text) (slot : Option UInt32) (world : World Text)
          (login : Cs10022), arrival.packet.cmdId = 10022 →
          gate.game.decoder.cs10022 arrival.packet.data = some login → login.accountId = uid →
          gate.md5WithSalt login.serverTicket = login.checkKey →
          (arrival.beforeAccount world).accounts = last.table.getAccount →
          (∀ row, (arrival.beforeRow (arrival.beforeAccount world)).store.rows uid = some row →
            row.isBanned = 0) →
          arrival.accountFails = false → arrival.rowFails = false →
          gate.Accepted uid arrival world ∧
            (gate.handlePacket arrival slot world).uid = some uid := by
  have reflected := (run_reflected host first events server notes ran).1
  have counted := run_counted host events _ server notes counted ran
  obtain ⟨uid, registered, read⟩ := shown_account reflected counted few member shown
  refine ⟨uid, registered, ?_, ?_, ?_⟩
  · intro dispatch request asked
    simp only [Dispatch.login, asked, Option.bind_some, read, Option.getD_some]
  · intro other member' req' user' shown' different dispatch request asked same
    obtain ⟨uid', registered', read'⟩ := shown_account reflected counted few member' shown'
    simp only [Dispatch.login, asked, Option.bind_some, read', Option.getD_some] at same
    exact different (AccountTable.registered_name (same ▸ registered') registered)
  · intro later last notes' continued gate arrival slot world login command decoded account key known
      allowed accountRead rowRead
    have kept := (run_kept host later server last notes' continued).registered registered
    have accepted : gate.Accepted uid arrival world :=
      ⟨command, ⟨login, decoded, account, key⟩, known ▸ AccountTable.registered_known kept, allowed,
        accountRead, rowRead⟩
    refine ⟨accepted, ?_⟩
    unfold Gate.handlePacket
    rw [if_pos command, Gate.login_accepted slot accepted, Gate.enter_slot]

/-- An account is created and logged in. The dispatch service reads its uid off the text, and the gate
accepts a login under that uid with the digest of its ticket and binds the connection to it. -/
theorem login_reaches_gate_first :
    let header := "\x7b\"Head\":\x7b\x7d\x7d"
    let body : List UInt8 :=
      [123, 34, 67, 104, 101, 99, 107, 65, 99, 99, 111, 117, 110, 116, 34, 58, 48, 44, 34, 85, 115, 101,
        114, 78, 97, 109, 101, 34, 58, 34, 97, 34, 125]
    let host : Host :=
      { authorizationHeader := fun text => if text = header then some ⟨none, none⟩ else none
        commonConfigReq := fun _ => .error 415
        getAuthReq := fun _ => .error 415
        loginReq := fun http => if http.body = body then .ok ⟨0, "a"⟩ else .error 415
        versionReq := fun _ => .error 415
        userSetReq := fun _ => .error 415
        commonConfig := "", clientCode := "", files := fun _ => (404, []) }
    let http : HttpRequest := ⟨.post, "/user/login", some (some header), body⟩
    let events : List Event :=
      [.receive 0 http "", .advance 0 "" 0 false, .advance 0 "aa" 0 false,
        .receive 0 http "", .advance 0 "" 0 false, .advance 0 "" 0 false]
    let dispatch : Dispatch := ⟨⟨"127.0.0.1", 21180, [], []⟩, Gate.sampleGate.md5WithSalt, fun _ => none⟩
    let login : Arrival PlayerInfo :=
      ⟨⟨⟨fun _ => 0, ⟨53, 0, 10022, 2, Gate.sampleLogin, []⟩⟩, false, false⟩, false, false, false,
        id, id, id, id⟩
    ∃ server notes, (service host).run ⟨.empty, fun _ => none⟩ events = some (server, notes) ∧
      server.table.Registered "a" "aa" 1 ∧
      (dispatch.login ⟨"test", some "1", none, Gate.sampleDigest, none⟩).accountId = 1 ∧
      let world : World PlayerInfo := ⟨server.table.getAccount, Store.started fun _ => none⟩
      Gate.sampleGate.Accepted 1 login world ∧
        (Gate.sampleGate.handlePacket login none world).uid = some 1 := by
  intro header body host http events dispatch login
  have answered : ((service host).run ⟨.empty, fun _ => none⟩ events).map Prod.snd =
      some [.quiet, .quiet, .answered http (some (.creating ⟨0, "a"⟩)) (.api 100900 .empty "新账号"),
        .quiet, .quiet, .answered http (some (.clearing ⟨0, "a"⟩ ⟨1, "aa", "a", "a", 0, 1⟩))
          (ok (.user (sdkUser ⟨1, "aa", "a", "a", 0, 1⟩ 1)))] := by decide +kernel
  have counted : ((service host).run ⟨.empty, fun _ => none⟩ events).map
      (fun result => result.1.table.sequence) = some 1 := by decide +kernel
  obtain ⟨⟨server, _⟩, ran, rfl⟩ := Option.map_eq_some_iff.mp answered
  rw [ran] at counted
  have sequence : server.table.sequence = 1 := Option.some.inj counted
  obtain ⟨uid, registered, read, _, entered⟩ := @login_reaches_gate PlayerInfo host .empty events server
    _ ran ⟨Int.le_refl _, fun _ member => by cases member⟩ (by rw [sequence]; decide) _
    (List.mem_of_getLast? rfl) ⟨0, "a"⟩ _ ⟨_, _, rfl, rfl⟩
  obtain rfl : uid = 1 :=
    (read dispatch ⟨"test", some "1", none, Gate.sampleDigest, none⟩ rfl).symm.trans (by decide +kernel)
  have gated := entered [] server [] rfl Gate.sampleGate login none
    ⟨server.table.getAccount, Store.started fun _ => none⟩ ⟨1, "test", Gate.sampleDigest⟩ rfl rfl rfl
    rfl rfl (fun _ stored => by cases stored) rfl rfl
  exact ⟨server, _, ran, registered, read dispatch _ rfl, gated.1, gated.2⟩

end Sdk

end CheshireLane
