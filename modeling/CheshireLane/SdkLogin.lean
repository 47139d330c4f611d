import CheshireLane.Library.Transitions
import CheshireLane.SdkAccounts
import Mathlib.Logic.Function.Basic

/-!
# SDK logins

A login looks up the account by name. A missing account is created, and the client
asks again; an account found is reported, and its new flag is cleared behind the
lookup. Nothing holds these statements together, so any number of requests take
theirs in between.
-/

namespace CheshireLane

open Transitions

/-- `user_info`. -/
structure UserInfo where
  id : String
  uid2 : Int := 0
  pid : String := "JP-AZURLANE"
  token : String
  birthday : String := ""
  regChannel : String := "googleplay"
  transCode : String := ""
  state : Int := 1
  deviceId : String := ""
  createdAt : Int
  deriving DecidableEq

/-- `yostar_info`. -/
structure YostarInfo where
  id : String
  country : String := "JP"
  nickname : String
  picture : String := ""
  state : Int := 1
  agreeAd : Int := 0
  createdAt : Int
  deriving DecidableEq

/-- The data of `sdk_user_response`. -/
structure SdkUser where
  ageVerifyMethod : Int := 0
  isNew : Int
  userInfo : UserInfo
  yostar : YostarInfo
  deriving DecidableEq

/-- A bare status, or the code, data and message of `api`. -/
inductive SdkResponse where
  | status (code : Nat)
  | api (code : Int) (data : Option SdkUser) (msg : String)

/-- The data of an answer. The flag is passed separately, because it is reported as it was read. -/
def sdkUser (account : SdkAccount) (isNew : Int) : SdkUser where
  isNew := isNew
  userInfo :=
    { id := toString account.uid, token := account.token, createdAt := account.createdAt }
  yostar :=
    { id := "Y" ++ toString account.uid, nickname := account.nickName, createdAt := account.createdAt }

/-- `sdk_user_response`. -/
def sdkUserResponse (account : SdkAccount) (isNew : Int) : SdkResponse :=
  .api 200 (some (sdkUser account isNew)) "OK"

/-- The body of a login. What else the client sends is not read. -/
structure LoginReq where
  checkAccount : Int
  userName : String
  deriving DecidableEq

/-- Where a request is: in front of the lookup, the insert or the update, or answered. -/
inductive LoginJob where
  | looking
  | creating
  | clearing (account : SdkAccount)
  | done

/-- The table and the logins in progress, by numbers of their own. -/
structure SdkServer where
  table : AccountTable
  requests : Nat → Option (LoginReq × LoginJob)

/-- A request arrives or takes its next statement. The token is drawn and the clock is
read in front of an insert. -/
inductive SdkEvent where
  | receive (id : Nat) (req : LoginReq)
  | advance (id : Nat) (token : String) (now : Int)

/-- What a step shows: nothing, or the answer to a login. -/
inductive SdkLabel where
  | quiet
  | answered (req : LoginReq) (response : SdkResponse)

namespace SdkServer

/-- One login moves, the others stay. -/
def setRequest (server : SdkServer) (id : Nat) (req : LoginReq) (job : LoginJob) : SdkServer :=
  { server with requests := Function.update server.requests id (some (req, job)) }

/-- The statements of `login_user`. Looking up, creating and clearing are statements of their own,
and other requests may come in between. -/
def advance (server : SdkServer) (id : Nat) (req : LoginReq) (token : String) (now : Int) :
    LoginJob → Option (SdkServer × SdkLabel)
  | .looking =>
    match server.table.getSdkAccountByUserName req.userName with
    | some account =>
      if account.isNew ≠ 0 then some (server.setRequest id req (.clearing account), .quiet)
      else
        some (server.setRequest id req .done, .answered req (sdkUserResponse account account.isNew))
    | none => some (server.setRequest id req .creating, .quiet)
  | .creating =>
    match server.table.createSdkAccount req.userName token now with
    | some table =>
      some ({ server with table }.setRequest id req .done,
        .answered req (.api 100900 none "新账号"))
    | none => some (server.setRequest id req .done, .answered req (.status 500))
  | .clearing account =>
    let table := server.table.clearSdkNewFlag (castU32 account.uid)
    some ({ server with table }.setRequest id req .done,
      .answered req (sdkUserResponse account account.isNew))
  | .done => none

end SdkServer

/-- The SDK server with all its logins. No statement fails but for a constraint. -/
def sdkLogins : Machine SdkServer SdkEvent SdkLabel where
  step server event :=
    match event with
    | .receive id req =>
      if (server.requests id).isSome then none
      else if req.checkAccount ≠ 0 ∧ req.checkAccount ≠ 1 then
        some (server.setRequest id req .done, .answered req (.status 400))
      else some (server.setRequest id req .looking, .quiet)
    | .advance id token now =>
      match server.requests id with
      | none => none
      | some (req, job) => server.advance id req token now job

/-- What a step can be. It has one constructor for each branch, with what the statement has found.
-/
inductive SdkStep (server : SdkServer) : SdkEvent → SdkServer → SdkLabel → Prop
  | received (id : Nat) (req : LoginReq) (free : server.requests id = none) :
      SdkStep server (.receive id req) (server.setRequest id req .looking) .quiet
  | refused (id : Nat) (req : LoginReq) (free : server.requests id = none) :
      SdkStep server (.receive id req) (server.setRequest id req .done)
        (.answered req (.status 400))
  | flagged (id : Nat) (token : String) (now : Int) (req : LoginReq) (account : SdkAccount)
      (looking : server.requests id = some (req, .looking))
      (found : server.table.getSdkAccountByUserName req.userName = some account)
      (raised : account.isNew ≠ 0) :
      SdkStep server (.advance id token now) (server.setRequest id req (.clearing account)) .quiet
  | known (id : Nat) (token : String) (now : Int) (req : LoginReq) (account : SdkAccount)
      (looking : server.requests id = some (req, .looking))
      (found : server.table.getSdkAccountByUserName req.userName = some account)
      (lowered : account.isNew = 0) :
      SdkStep server (.advance id token now) (server.setRequest id req .done)
        (.answered req (sdkUserResponse account account.isNew))
  | missing (id : Nat) (token : String) (now : Int) (req : LoginReq)
      (looking : server.requests id = some (req, .looking)) :
      SdkStep server (.advance id token now) (server.setRequest id req .creating) .quiet
  | created (id : Nat) (token : String) (now : Int) (req : LoginReq) (table : AccountTable)
      (creating : server.requests id = some (req, .creating))
      (inserted : server.table.createSdkAccount req.userName token now = some table) :
      SdkStep server (.advance id token now) ({ server with table }.setRequest id req .done)
        (.answered req (.api 100900 none "新账号"))
  | duplicate (id : Nat) (token : String) (now : Int) (req : LoginReq)
      (creating : server.requests id = some (req, .creating)) :
      SdkStep server (.advance id token now) (server.setRequest id req .done)
        (.answered req (.status 500))
  | cleared (id : Nat) (token : String) (now : Int) (req : LoginReq) (account : SdkAccount)
      (clearing : server.requests id = some (req, .clearing account)) :
      SdkStep server (.advance id token now)
        ({ server with table := server.table.clearSdkNewFlag (castU32 account.uid) }.setRequest
          id req .done)
        (.answered req (sdkUserResponse account account.isNew))

/-- Everything a step can do, with what it needs. The invariants are derived from these cases. Each
case carries what its statement has found in the table, since the next statement of the request may
find it changed. -/
theorem sdk_step_cases {server next : SdkServer} {event : SdkEvent} {label : SdkLabel}
    (taken : sdkLogins.step server event = some (next, label)) :
    SdkStep server event next label := by
  cases event with
  | receive id req =>
    simp only [sdkLogins] at taken
    split at taken
    · cases taken
    · next free =>
      have free : server.requests id = none := by simpa using free
      split at taken <;> cases taken
      · exact .refused id req free
      · exact .received id req free
  | advance id token now =>
    simp only [sdkLogins] at taken
    split at taken
    · cases taken
    · next req job request =>
      cases job with
      | looking =>
        simp only [SdkServer.advance] at taken
        split at taken
        · next account found =>
          split at taken <;> cases taken
          · next raised => exact .flagged id token now req account request found raised
          · next lowered => exact .known id token now req account request found (not_not.mp lowered)
        · cases taken
          exact .missing id token now req request
      | creating =>
        simp only [SdkServer.advance] at taken
        split at taken <;> cases taken
        · next table inserted => exact .created id token now req table request inserted
        · exact .duplicate id token now req request
      | clearing account =>
        cases taken
        exact .cleared id token now req account request
      | done => cases taken

open AccountTable

/-- The account a response reports. -/
def SdkResponse.user : SdkResponse → Option SdkUser
  | .status _ => none
  | .api _ data _ => data

/-- The label reports the account of the name as new. -/
def reportsNew (name : String) : SdkLabel → Bool
  | .quiet => false
  | .answered req response => req.userName = name && response.user.any fun user => user.isNew ≠ 0

/-- A request for the name has found the flag raised and is yet to clear it. -/
def SdkServer.Pending (server : SdkServer) (name : String) (id : Nat) : Prop :=
  ∃ req account, server.requests id = some (req, .clearing account) ∧ req.userName = name

/-- The flag of the name is raised. -/
def AccountTable.Raised (table : AccountTable) (name : String) : Prop :=
  ∃ account, table.getSdkAccountByUserName name = some account ∧ account.isNew ≠ 0

/-- A lookup that finds the flag raised finds no request that is yet to clear it, and
the uid in an update fits 32 bits. -/
def HarmlessLogin (server : SdkServer) : SdkEvent → Prop
  | .receive _ _ => True
  | .advance id _ _ =>
    (∀ req, server.requests id = some (req, .looking) → server.table.Raised req.userName →
      ∀ other, ¬ server.Pending req.userName other) ∧
    ∀ req account, server.requests id = some (req, .clearing account) →
      0 ≤ account.uid ∧ account.uid < 4294967296

/-- Every request that is yet to clear a flag holds the account of its name, and every
answer reports the account of its name. -/
structure LoginsConsistent (labels : List SdkLabel) (server : SdkServer) : Prop where
  pending : ∀ id req account, server.requests id = some (req, .clearing account) →
    server.table.Registered req.userName account.token account.uid ∧ account.isNew ≠ 0
  answered : ∀ req response user, .answered req response ∈ labels → response.user = some user →
    ∃ uid, server.table.Registered req.userName user.userInfo.token uid ∧
      user.userInfo.id = toString uid

/-- No statement changes an account but for its flag. -/
theorem sdk_step_kept {server next : SdkServer} {event : SdkEvent} {label : SdkLabel}
    (taken : SdkStep server event next label) : Kept server.table next.table := by
  cases taken with
  | created id token now req table creating inserted => exact kept_created inserted
  | cleared id token now req account clearing => exact kept_cleared _
  | _ => exact Kept.refl _

namespace LoginsConsistent

variable {labels : List SdkLabel} {server next : SdkServer}

/-- Nothing is pending and nothing was answered. -/
theorem start (table : AccountTable) : LoginsConsistent [] ⟨table, fun _ => none⟩ where
  pending _ _ _ request := nomatch request
  answered _ _ _ member := nomatch member

/-- One request has moved. What the other requests know stays true, as rows keep their tokens and
uids; of this one it is what is assumed. -/
theorem moved (consistent : LoginsConsistent labels server) {table : AccountTable}
    (kept : Kept server.table table) (id : Nat) (req : LoginReq) (job : LoginJob) (label : SdkLabel)
    (own : ∀ account, job = .clearing account →
      table.Registered req.userName account.token account.uid ∧ account.isNew ≠ 0)
    (said : ∀ req response user, label = .answered req response → response.user = some user →
      ∃ uid, table.Registered req.userName user.userInfo.token uid ∧
        user.userInfo.id = toString uid) :
    LoginsConsistent (labels ++ [label]) ({ server with table }.setRequest id req job) where
  pending other req' account request := by
    simp only [SdkServer.setRequest, Function.update_apply] at request
    split at request
    · simp only [Option.some.injEq, Prod.mk.injEq] at request
      obtain ⟨rfl, rfl⟩ := request
      exact own account rfl
    · obtain ⟨registered, raised⟩ := consistent.pending other req' account request
      exact ⟨kept.registered registered, raised⟩
  answered req response user member carried := by
    rcases List.mem_append.mp member with earlier | last
    · obtain ⟨uid, registered, same⟩ := consistent.answered req response user earlier carried
      exact ⟨uid, kept.registered registered, same⟩
    · exact said req response user (List.mem_singleton.mp last).symm carried

/-- A request has moved without finding a flag raised or reporting an account. -/
theorem silent (consistent : LoginsConsistent labels server) {table : AccountTable}
    (kept : Kept server.table table) (id : Nat) (req : LoginReq) {job : LoginJob} {label : SdkLabel}
    (own : ∀ account, job ≠ .clearing account)
    (said : ∀ req response, label = .answered req response → response.user = none) :
    LoginsConsistent (labels ++ [label]) ({ server with table }.setRequest id req job) := by
  refine consistent.moved kept id req job label (fun account same => absurd same (own account)) ?_
  intro req response user same carried
  rw [said req response same] at carried
  cases carried

/-- A request has reported the account of its name. -/
theorem reported (consistent : LoginsConsistent labels server) {table : AccountTable}
    (kept : Kept server.table table) (id : Nat) (req : LoginReq) {account : SdkAccount}
    (registered : table.Registered req.userName account.token account.uid) :
    LoginsConsistent (labels ++ [.answered req (sdkUserResponse account account.isNew)])
      ({ server with table }.setRequest id req .done) := by
  refine consistent.moved kept id req .done _ (fun _ same => nomatch same) ?_
  intro other response user same carried
  cases same
  cases carried
  exact ⟨account.uid, registered, rfl⟩

/-- Every statement keeps the consistency, since no statement changes the token or the uid of a row.
Only the answer reports an account, and it reports the row that one of its statements has found or
created. -/
theorem step {event : SdkEvent} {label : SdkLabel} (consistent : LoginsConsistent labels server)
    (taken : SdkStep server event next label) : LoginsConsistent (labels ++ [label]) next := by
  cases taken with
  | received id req free =>
    exact consistent.silent (.refl _) id req (fun _ => nofun) (fun _ _ => nofun)
  | refused id req free =>
    refine consistent.silent (.refl _) id req (fun _ => nofun) ?_
    rintro _ _ ⟨⟩
    rfl
  | flagged id token now req account looking found raised =>
    refine consistent.moved (.refl _) id req _ _ ?_ fun _ _ _ same => nomatch same
    rintro _ ⟨⟩
    exact ⟨found_registered found, raised⟩
  | known id token now req account looking found lowered =>
    exact consistent.reported (.refl _) id req (found_registered found)
  | missing id token now req looking =>
    exact consistent.silent (.refl _) id req (fun _ => nofun) (fun _ _ => nofun)
  | created id token now req table creating inserted =>
    refine consistent.silent (kept_created inserted) id req (fun _ => nofun) ?_
    rintro _ _ ⟨⟩
    rfl
  | duplicate id token now req creating =>
    refine consistent.silent (.refl _) id req (fun _ => nofun) ?_
    rintro _ _ ⟨⟩
    rfl
  | cleared id token now req account clearing =>
    have registered := (consistent.pending id req account clearing).1
    exact consistent.reported (kept_cleared _) id req ((kept_cleared _).registered registered)

end LoginsConsistent

/-- How often a name was reported as new. -/
def newReports (name : String) (labels : List SdkLabel) : Nat := labels.countP (reportsNew name)

/-- At most one request is yet to report the name as new, and once one has reported it
the flag is lowered. -/
structure ReportedOnce (name : String) (labels : List SdkLabel) (server : SdkServer) : Prop where
  alone : ∀ left right, server.Pending name left → server.Pending name right → left = right
  before : ∀ id, server.Pending name id → newReports name labels = 0
  once : newReports name labels = 0 ∨ newReports name labels = 1 ∧ server.table.Lowered name

/-- One more label adds at most one report. -/
theorem new_reports_append (name : String) (labels : List SdkLabel) (label : SdkLabel) :
    newReports name (labels ++ [label]) =
      newReports name labels + if reportsNew name label then 1 else 0 := by
  rw [newReports, List.countP_append, List.countP_singleton]
  rfl

/-- Which requests are yet to clear a flag after one has moved. -/
theorem pending_set (server : SdkServer) (table : AccountTable) (id : Nat) (req : LoginReq)
    (job : LoginJob) (name : String) (other : Nat) :
    ({ server with table }.setRequest id req job).Pending name other ↔
      if other = id then (∃ account, job = .clearing account) ∧ req.userName = name
      else server.Pending name other := by
  unfold SdkServer.Pending SdkServer.setRequest
  simp only [Function.update_apply]
  split
  · simp only [Option.some.injEq, Prod.mk.injEq]
    constructor
    · rintro ⟨_, account, ⟨rfl, rfl⟩, named⟩
      exact ⟨⟨account, rfl⟩, named⟩
    · rintro ⟨⟨account, rfl⟩, named⟩
      exact ⟨req, account, ⟨rfl, rfl⟩, named⟩
  · rfl

namespace ReportedOnce

variable {name : String} {labels : List SdkLabel} {server next : SdkServer}

/-- Nothing is pending and nothing was reported. -/
theorem start (name : String) (table : AccountTable) :
    ReportedOnce name [] ⟨table, fun _ => none⟩ where
  alone _ _ pending := nomatch pending
  before _ pending := nomatch pending
  once := .inl rfl

/-- A request that has not found the flag of the name raised has moved. The number of reports is as
before, and whoever is yet to clear the flag was so before. -/
theorem quiet (reported : ReportedOnce name labels server) {table : AccountTable}
    (kept : Kept server.table table) (id : Nat) (req : LoginReq) (job : LoginJob) (label : SdkLabel)
    (other : ¬ ((∃ account, job = .clearing account) ∧ req.userName = name))
    (silent : reportsNew name label = false) :
    ReportedOnce name (labels ++ [label]) ({ server with table }.setRequest id req job) := by
  have same : newReports name (labels ++ [label]) = newReports name labels := by
    rw [new_reports_append, silent]
    rfl
  have earlier : ∀ moved, ({ server with table }.setRequest id req job).Pending name moved →
      server.Pending name moved := by
    intro moved pending
    rw [pending_set] at pending
    split at pending
    · exact absurd pending other
    · exact pending
  refine ⟨fun left right first second => reported.alone left right (earlier _ first) (earlier _ second),
    fun moved pending => same ▸ reported.before moved (earlier _ pending), ?_⟩
  rw [same]
  exact reported.once.imp_right fun ⟨one, lowered⟩ => ⟨one, kept.lowered lowered⟩

/-- A request has found the flag raised, and no other one is yet to clear it. Nobody has reported it
so far, since a report is followed by a lowered flag and a lowered flag is never raised again. -/
theorem flagged (reported : ReportedOnce name labels server) (id : Nat) (req : LoginReq)
    (account : SdkAccount)
    (found : server.table.getSdkAccountByUserName name = some account) (raised : account.isNew ≠ 0)
    (none : ∀ other, ¬ server.Pending name other) :
    ReportedOnce name (labels ++ [.quiet]) (server.setRequest id req (.clearing account)) := by
  have zero : newReports name labels = 0 := by
    refine reported.once.resolve_right ?_
    rintro ⟨_, row, member, rowName, lowered⟩
    obtain ⟨other, present, otherName, _, _, flag⟩ := found_row found
    obtain rfl := row_unique member present rowName otherName
    exact raised (flag.symm.trans lowered)
  have only : ∀ other, (server.setRequest id req (.clearing account)).Pending name other →
      other = id := by
    intro other pending
    have pending := (pending_set server server.table id req _ name other).mp pending
    split at pending
    · assumption
    · exact absurd pending (none other)
  have quiet : newReports name (labels ++ [.quiet]) = 0 := by
    rw [new_reports_append, zero]
    rfl
  exact ⟨fun left right first second => (only _ first).trans (only _ second).symm,
    fun _ _ => quiet, .inl quiet⟩

/-- The one request that found the flag raised clears it and reports the account. It was the only
one to do so, and with the flag lowered no request finds it raised again. -/
theorem cleared (reported : ReportedOnce name labels server) (id : Nat) (req : LoginReq)
    (account : SdkAccount) (named : req.userName = name)
    (clearing : server.requests id = some (req, .clearing account))
    (registered : server.table.Registered name account.token account.uid)
    (fits : 0 ≤ account.uid ∧ account.uid < 4294967296) :
    ReportedOnce name (labels ++ [.answered req (sdkUserResponse account account.isNew)])
      ({ server with table := server.table.clearSdkNewFlag (castU32 account.uid) }.setRequest
        id req .done) := by
  have pending : server.Pending name id := ⟨req, account, clearing, named⟩
  have none : ∀ other, ¬ ({ server with
      table := server.table.clearSdkNewFlag (castU32 account.uid) }.setRequest id req .done).Pending
        name other := by
    intro other again
    rw [pending_set] at again
    split at again
    · obtain ⟨⟨_, same⟩, _⟩ := again
      cases same
    · next different => exact different (reported.alone other id again pending)
  have lowered := cleared_lowered registered fits
  refine ⟨fun left _ first => absurd first (none left), fun other first => absurd first (none other), ?_⟩
  rw [new_reports_append, reported.before id pending]
  split
  · exact .inr ⟨rfl, lowered⟩
  · exact .inl rfl

/-- A step that does no harm keeps the count: it does not read a raised flag while another request
has read it too. -/
theorem step {event : SdkEvent} {label : SdkLabel} (reported : ReportedOnce name labels server)
    (consistent : LoginsConsistent labels server) (harmless : HarmlessLogin server event)
    (taken : SdkStep server event next label) : ReportedOnce name (labels ++ [label]) next := by
  cases taken with
  | received id req free => exact reported.quiet (.refl _) id req _ _ (by simp) rfl
  | refused id req free =>
    exact reported.quiet (.refl _) id req _ _ (by simp) (by simp [reportsNew, SdkResponse.user])
  | flagged id token now req account looking found raised =>
    by_cases named : req.userName = name
    · subst named
      exact reported.flagged id req account found raised
        (harmless.1 req looking ⟨account, found, raised⟩)
    · exact reported.quiet (.refl _) id req _ _ (by simp [named]) rfl
  | known id token now req account looking found lowered =>
    refine reported.quiet (.refl _) id req _ _ (by simp) ?_
    simp [reportsNew, SdkResponse.user, sdkUserResponse, sdkUser, lowered]
  | missing id token now req looking => exact reported.quiet (.refl _) id req _ _ (by simp) rfl
  | created id token now req table creating inserted =>
    exact reported.quiet (kept_created inserted) id req _ _ (by simp)
      (by simp [reportsNew, SdkResponse.user])
  | duplicate id token now req creating =>
    exact reported.quiet (.refl _) id req _ _ (by simp) (by simp [reportsNew, SdkResponse.user])
  | cleared id token now req account clearing =>
    by_cases named : req.userName = name
    · subst named
      exact reported.cleared id req account rfl clearing (consistent.pending id req account clearing).1
        (harmless.2 req account clearing)
    · exact reported.quiet (kept_cleared _) id req _ _ (by simp) (by simp [reportsNew, named])

end ReportedOnce

/-- A server that has just started. -/
def SdkServer.start (table : AccountTable) : SdkServer := ⟨table, fun _ => none⟩

/-- Over a run all accounts are kept. By induction on the statements. -/
theorem sdk_run_kept (events : List SdkEvent) (server last : SdkServer) (labels : List SdkLabel)
    (ran : sdkLogins.run server events = some (last, labels)) : Kept server.table last.table :=
  Machine.run_always (fun _ state => Kept server.table state.table)
    (fun _ _ _ _ _ kept taken => kept.trans (sdk_step_kept (sdk_step_cases taken)))
    events server last labels (Kept.refl _) ran

/-- Over a run all answers are consistent with the table at its end. By induction on the statements.
-/
theorem sdk_run_consistent (events : List SdkEvent) (table : AccountTable) (server : SdkServer)
    (labels : List SdkLabel) (ran : sdkLogins.run (.start table) events = some (server, labels)) :
    LoginsConsistent labels server :=
  Machine.run_always LoginsConsistent
    (fun _ _ _ _ _ consistent taken => consistent.step (sdk_step_cases taken))
    events _ server labels (.start table) ran

/-- With harmless steps alone every name is reported as new once at most. -/
theorem sdk_run_reported (events : List SdkEvent) (table : AccountTable) (server : SdkServer)
    (labels : List SdkLabel) (name : String)
    (harmless : sdkLogins.Along HarmlessLogin (.start table) events)
    (ran : sdkLogins.run (.start table) events = some (server, labels)) :
    ReportedOnce name labels server := by
  have both := Machine.run_invariant HarmlessLogin
    (fun labels server => LoginsConsistent labels server ∧ ReportedOnce name labels server)
    (fun labels server event next label before harmless taken =>
      ⟨before.1.step (sdk_step_cases taken), before.2.step before.1 harmless (sdk_step_cases taken)⟩)
    events _ server [] labels ⟨.start table, .start name table⟩ harmless ran
  exact both.2

/-- A name has one account at most, which keeps its uid and its token and is the one every response
reports. It is reported as new once at most in every run whose steps are harmless.

No statement changes the uid or the token of a row. The first report is made by the only request
that has read the raised flag, and the flag is lowered before the next one reads it. -/
theorem sdk_logins_consistent (events : List SdkEvent) (table : AccountTable) (server : SdkServer)
    (labels : List SdkLabel) (ran : sdkLogins.run (.start table) events = some (server, labels)) :
    (∀ name, (server.table.rows.filter fun row => row.userName = some name).length ≤ 1) ∧
      (∀ later last labels', sdkLogins.run server later = some (last, labels') →
        ∀ name token uid, server.table.Registered name token uid →
          last.table.Registered name token uid) ∧
      (∀ req response user, SdkLabel.answered req response ∈ labels → response.user = some user →
        ∃ uid, server.table.Registered req.userName user.userInfo.token uid ∧
          user.userInfo.id = toString uid) ∧
      (sdkLogins.Along HarmlessLogin (.start table) events → ∀ name, newReports name labels ≤ 1) := by
  refine ⟨name_once server.table, ?_, (sdk_run_consistent events table server labels ran).answered, ?_⟩
  · intro later last labels' continued name token uid registered
    exact (sdk_run_kept later server last labels' continued).registered registered
  · intro harmless name
    rcases (sdk_run_reported events table server labels name harmless ran).once with zero | ⟨one, _⟩
    · exact zero ▸ Nat.zero_le _
    · exact Nat.le_of_eq one

/-- Two logins of an account that was just created overlap. The second one looks it up only behind the
update of the first, which alone reports it as new. -/
theorem sdk_logins_consistent_first_login :
    let table : AccountTable :=
      ⟨[⟨1, "sdk:a", "aa", some "a", some "a", 0, 1⟩], 1, by decide, by decide, by decide, by simp⟩
    let events : List SdkEvent :=
      [.receive 0 ⟨1, "a"⟩, .receive 1 ⟨1, "a"⟩, .advance 0 "" 0, .advance 0 "" 0, .advance 1 "" 0]
    ∃ server labels, sdkLogins.run (.start table) events = some (server, labels) ∧
      (labels.filter fun label => label matches .answered _ _).length = 2 ∧
      newReports "a" labels = 1 ∧ newReports "a" labels ≤ 1 := by
  intro table events
  have told : (sdkLogins.run (.start table) events).map (fun result =>
      ((result.2.filter fun label => label matches .answered _ _).length,
        newReports "a" result.2)) = some (2, 1) := rfl
  obtain ⟨⟨server, labels⟩, ran, counts⟩ := Option.map_eq_some_iff.mp told
  obtain ⟨answers, reports⟩ := Prod.mk.inj counts
  refine ⟨server, labels, ran, answers, reports,
    (sdk_logins_consistent events table server labels ran).2.2.2 ?_ "a"⟩
  refine Machine.along_cons rfl trivial (Machine.along_cons rfl trivial
    (Machine.along_cons rfl ⟨?_, ?_⟩ (Machine.along_cons rfl ⟨?_, ?_⟩
      (Machine.along_cons rfl ⟨?_, ?_⟩ trivial))))
  · -- No login is yet to clear the flag when the first one looks the account up.
    rintro req _ _ other ⟨_, _, request, _⟩
    simp only [SdkServer.setRequest, Function.update_apply] at request
    split at request
    · cases request
    · split at request <;> cases request
  · intro req account request
    simp [SdkServer.setRequest] at request
  · intro req request
    simp [SdkServer.setRequest] at request
  · intro req account request
    simp only [SdkServer.setRequest, Function.update_self, Option.some.injEq, Prod.mk.injEq,
      LoginJob.clearing.injEq] at request
    rw [← request.2]
    exact ⟨by decide, by decide⟩
  · -- The flag is lowered when the second one does.
    rintro req request ⟨account, found, raised⟩
    obtain rfl : (⟨1, "a"⟩ : LoginReq) = req := by simpa [SdkServer.setRequest] using request
    exact absurd (Option.some.inj found ▸ rfl) raised
  · intro req account request
    simp [SdkServer.setRequest] at request

/-- The account is created, and two logins look it up before either clears the flag. -/
theorem new_account_reported_twice :
    let req : LoginReq := ⟨0, "a"⟩
    let events : List SdkEvent :=
      [.receive 0 req, .advance 0 "" 0, .advance 0 "aa" 0, .receive 1 req, .receive 2 req,
        .advance 1 "" 0, .advance 2 "" 0, .advance 1 "" 0, .advance 2 "" 0]
    (sdkLogins.run (.start .empty) events).map (fun result => newReports "a" result.2) = some 2 := by
  intro req events
  rfl

end CheshireLane
