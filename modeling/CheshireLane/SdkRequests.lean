import CheshireLane.SdkLogin

/-!
# Requests to the SDK

A request passes the authorization check, is routed, and has its body extracted. Most
are answered at once. A login, a question for an account and a new nickname take
statements on the account table, and any number of requests take theirs in between.
A statement may fail; then it changes nothing.

Nothing compares the token a client sends with the one stored.
-/

namespace CheshireLane

namespace AccountTable

/-- `uid = ? AND user_name IS NOT NULL`. -/
def hasUid (uid : UInt32) (row : AccountRow) : Bool :=
  decide (row.uid = (uid.toNat : Int)) && row.userName.isSome

/-- `get_sdk_account`. -/
def getSdkAccount (table : AccountTable) (uid : UInt32) : Option SdkAccount :=
  (table.rows.find? (hasUid uid)).bind fun row =>
    row.userName.map fun userName =>
      ⟨row.uid, row.token, userName, row.nickName.getD userName, row.createdAt, row.isNew⟩

/-- One row of the update: the nickname is set where the uid is the one asked for. -/
def rename (uid : UInt32) (nickName : String) (row : AccountRow) : AccountRow :=
  if hasUid uid row then { row with nickName := some nickName } else row

/-- A nickname is all that changes. -/
theorem rename_keeps (uid : UInt32) (nickName : String) (row : AccountRow) :
    ∃ shown, rename uid nickName row = { row with nickName := shown } := by
  unfold rename
  split
  · exact ⟨_, rfl⟩
  · exact ⟨row.nickName, rfl⟩

/-- A new nickname leaves the uid alone. -/
theorem rename_uid (uid : UInt32) (nickName : String) (row : AccountRow) :
    (rename uid nickName row).uid = row.uid := by
  obtain ⟨_, same⟩ := rename_keeps uid nickName row
  rw [same]

/-- A new nickname leaves the device id alone, so these stay unique. -/
theorem rename_device (uid : UInt32) (nickName : String) (row : AccountRow) :
    (rename uid nickName row).deviceId = row.deviceId := by
  obtain ⟨_, same⟩ := rename_keeps uid nickName row
  rw [same]

/-- A new nickname leaves the user name alone. -/
theorem rename_name (uid : UInt32) (nickName : String) (row : AccountRow) :
    (rename uid nickName row).userName = row.userName := by
  obtain ⟨_, same⟩ := rename_keeps uid nickName row
  rw [same]

/-- `update_sdk_nickname`, with whether a row was affected. It writes one column, so everything that
the table promises of the others is carried over. -/
def updateSdkNickname (table : AccountTable) (uid : UInt32) (nickName : String) :
    AccountTable × Bool where
  fst :=
    { rows := table.rows.map (rename uid nickName)
      sequence := table.sequence
      uids := by simpa only [List.map_map, Function.comp_def, rename_uid] using table.uids
      issued := by
        intro row renamed
        obtain ⟨old, member, rfl⟩ := List.mem_map.mp renamed
        rw [rename_uid]
        exact table.issued old member
      devices := by simpa only [List.map_map, Function.comp_def, rename_device] using table.devices
      names := by
        rw [List.pairwise_map]
        simp only [rename_name]
        exact table.names }
  snd := table.rows.any (hasUid uid)

end AccountTable

namespace Sdk

open Transitions

/-- The methods that the router distinguishes. -/
inductive Method where
  | get
  | head
  | post
  | other
  deriving DecidableEq

/-- The authorization header is missing, or it has text or other bytes. -/
structure HttpRequest where
  method : Method
  path : String
  authorization : Option (Option String)
  body : List UInt8
  deriving DecidableEq

/-- What the middleware hands to a handler: the uid and the token of the header, each as a text or
missing. -/
structure AuthInfo where
  uid : Option String
  token : Option String
  deriving DecidableEq

/-- The body of a request for the common configuration. Only one field of it is read. -/
structure CommonConfigReq where
  storeName : String

/-- The body of a request for an authorization by account and code. -/
structure GetAuthReq where
  account : String
  code : String

/-- The body of a request for versions, by their types. -/
structure VersionReq where
  types : List String

/-- The body of a request to set a property of the account, of which the server knows the nickname.
-/
structure UserSetReq where
  key : String
  value : String

/-- A text to agree to, of which only type and title differ. -/
structure Agreement where
  version : String := "0.1"
  type : String
  title : String
  content : String := ""
  lang : String := "ja"
  deriving DecidableEq

/-- A key under which the account can be reached. -/
structure DetailKey where
  id : String
  type : String := "yostar"
  key : String
  nickName : String
  createdAt : Int
  deriving DecidableEq

/-- The data of `sdk_detail_response`. -/
structure SdkDetail where
  ageVerifyMethod : Int := 0
  destroy : Option Unit := none
  isTestAccount : Bool := false
  keys : List DetailKey
  serverNowAt : Int
  userInfo : UserInfo
  yostar : YostarInfo
  yostarDestroy : Option Unit := none
  deriving DecidableEq

/-- The data of a reply, one constructor for each shape that a handler sends. -/
inductive Data where
  | empty
  | text (content : String)
  | europeanUnion (value : Bool)
  | auth (uid token account : String)
  | agreements (agreement : List Agreement) (errorCode : String)
  | user (user : SdkUser)
  | detail (detail : SdkDetail)
  deriving DecidableEq

/-- A bare status, the code, data and message of `api`, a constant body, or a file. -/
inductive Reply where
  | status (code : Nat)
  | api (code : Int) (data : Data) (msg : String)
  | json (body : String)
  | file (code : Nat) (content : List UInt8)
  deriving DecidableEq

/-- `api` without an error. -/
def ok (data : Data) : Reply := .api 200 data "OK"

/-- Extractors of headers and bodies, which reject with a status, the constant bodies
and the static files. -/
structure Host where
  authorizationHeader : String → Option AuthInfo
  commonConfigReq : HttpRequest → Except Nat CommonConfigReq
  getAuthReq : HttpRequest → Except Nat GetAuthReq
  loginReq : HttpRequest → Except Nat LoginReq
  versionReq : HttpRequest → Except Nat VersionReq
  userSetReq : HttpRequest → Except Nat UserSetReq
  commonConfig : String
  clientCode : String
  files : HttpRequest → Nat × List UInt8

/-- The path of a static file, which is served without authorization. -/
def isStatic (path : String) : Bool :=
  path = "/static" || "/static/".toList.isPrefixOf path.toList

/-- What passes `auth_middleware` without a header. -/
def isPublic (http : HttpRequest) : Bool :=
  (http.method = .get && http.path = "/") || http.path = "/common/config" || isStatic http.path

/-- `auth_middleware`. Public paths need no header; any other request without one that can be read
is refused. -/
def authorize (host : Host) (http : HttpRequest) : Except Nat (Option AuthInfo) :=
  if isPublic http then .ok none
  else match http.authorization with
    | none => .error 400
    | some none => .error 400
    | some (some value) =>
      match host.authorizationHeader value with
      | none => .error 400
      | some auth => .ok (some auth)

/-- The handlers of the router, one for each path. -/
inductive Route where
  | index
  | commonConfig
  | clientInfo
  | clientCode
  | sendCode
  | getAuth
  | clientLog
  | loginUser
  | userDetail
  | quickLogin
  | pgsOauthCode
  | commonVersion
  | userSet

/-- The router, path by path. The order does not matter, as no path stands in it twice. -/
def routes : List (String × Method × Route) :=
  [("/", .get, .index), ("/common/config", .post, .commonConfig),
    ("/common/client-info", .post, .clientInfo), ("/common/client-code", .post, .clientCode),
    ("/yostar/send-code", .post, .sendCode), ("/yostar/get-auth", .post, .getAuth),
    ("/common/client-log", .post, .clientLog), ("/user/login", .post, .loginUser),
    ("/user/detail", .post, .userDetail), ("/user/quick-login", .post, .quickLogin),
    ("/user/pgs-oauth-code", .post, .pgsOauthCode), ("/common/version", .post, .commonVersion),
    ("/user/set", .post, .userSet)]

/-- The router: an unknown path is not found, another method is not allowed. A `get`
route takes `HEAD` too. -/
def route (http : HttpRequest) : Except Nat Route :=
  match routes.lookup http.path with
  | none => .error 404
  | some (allowed, route) =>
    if http.method = allowed ∨ (allowed = .get ∧ http.method = .head) then .ok route else .error 405

/-- What a request waits for: the statements of `login_user`, or the one statement of
another handler. -/
inductive Job where
  | looking (req : LoginReq)
  | creating (req : LoginReq)
  | clearing (req : LoginReq) (account : SdkAccount)
  | detail (auth : AuthInfo) (uid : UInt32)
  | set (uid : UInt32) (value : String)
  deriving DecidableEq

/-- A request is answered without a statement, or it waits for one. -/
inductive Started where
  | answered (reply : Reply)
  | working (job : Job)

/-- `sdk_detail` up to its statement. -/
def startDetail : Option AuthInfo → Started
  | none => .answered (.status 500)
  | some auth =>
    match auth.uid.bind parseU32 with
    | none => .answered (.status 503)
    | some uid => .working (.detail auth uid)

/-- The two agreements, with the titles of the source. -/
def agreements : List Agreement :=
  [{ type := "privacy_agreement", title := "隐私政策" }, { type := "user_agreement", title := "用户协议" }]

/-- The handlers up to their first statement. A handler that needs the table leaves a job, and any
other one answers at once. -/
def begin (host : Host) (http : HttpRequest) (auth : Option AuthInfo) (drawn : String) :
    Route → Started
  | .index => .answered (ok (.text "Hello world"))
  | .commonConfig =>
    match host.commonConfigReq http with
    | .error code => .answered (.status code)
    | .ok req =>
      if req.storeName ≠ "googleplay" then .answered (.status 400)
      else .answered (.json host.commonConfig)
  | .clientInfo => .answered (ok (.europeanUnion false))
  | .clientCode => .answered (.json host.clientCode)
  | .sendCode => .answered (ok .empty)
  | .getAuth =>
    match host.getAuthReq http with
    | .error code => .answered (.status code)
    | .ok req =>
      if req.code ≠ "114514" then
        .answered (.api 100303 .empty "获取授权信息失败,错误代码:%!d(string=3)")
      else .answered (ok (.auth req.account drawn req.account))
  | .clientLog => .answered (ok .empty)
  | .loginUser =>
    match host.loginReq http with
    | .error code => .answered (.status code)
    | .ok req =>
      if req.checkAccount ≠ 0 ∧ req.checkAccount ≠ 1 then .answered (.status 400)
      else .working (.looking req)
  | .userDetail => startDetail auth
  | .quickLogin => startDetail auth
  | .pgsOauthCode =>
    .answered (.api 100811 .empty "PGS获取Code信息失败:The provided client secret is invalid.")
  | .commonVersion =>
    match host.versionReq http with
    | .error code => .answered (.status code)
    | .ok req =>
      if req.types.any fun type =>
          type ∉ ["user_agreement", "privacy_agreement", "credit_investigation"] then
        .answered (.status 400)
      else .answered (ok (.agreements agreements "5.5"))
  | .userSet =>
    match auth with
    | none => .answered (.status 500)
    | some auth =>
      match host.userSetReq http with
      | .error code => .answered (.status code)
      | .ok req =>
        if req.key ≠ "Nickname" then .answered (.status 400)
        else match auth.uid.bind parseU32 with
          | none => .answered (.status 503)
          | some uid => .working (.set uid req.value)

/-- The application up to the first statement. A token is drawn for `get_auth`. -/
def start (host : Host) (http : HttpRequest) (drawn : String) : Started :=
  match authorize host http with
  | .error code => .answered (.status code)
  | .ok auth =>
    if isStatic http.path then .answered (.file (host.files http).1 (host.files http).2)
    else match route http with
      | .error code => .answered (.status code)
      | .ok route => begin host http auth drawn route

/-- `sdk_detail_response`. -/
def sdkDetail (account : SdkAccount) (token : String) (now : Int) : SdkDetail where
  keys :=
    [{ id := toString account.uid, key := account.userName, nickName := account.nickName,
       createdAt := account.createdAt }]
  serverNowAt := now
  userInfo := { id := toString account.uid, token := token, createdAt := account.createdAt }
  yostar :=
    { id := "Y" ++ toString account.uid, nickname := account.nickName, createdAt := account.createdAt }

/-- The account table and the requests that wait for a statement. -/
structure Server where
  table : AccountTable
  jobs : Nat → Option (HttpRequest × Job)

/-- A request arrives, or it takes its next statement, which may fail. -/
inductive Event where
  | receive (id : Nat) (http : HttpRequest) (drawn : String)
  | advance (id : Nat) (drawn : String) (now : Int) (fails : Bool)

/-- An answered request, with the job whose statement it was answered behind. -/
inductive Note where
  | quiet
  | answered (http : HttpRequest) (job : Option Job) (reply : Reply)
  deriving DecidableEq

/-- What a statement leaves: the table, and the next job or the answer. -/
structure Moved where
  table : AccountTable
  outcome : Started

/-- One statement of a request. If it fails the table is as it was. -/
def statement (table : AccountTable) (drawn : String) (now : Int) (fails : Bool) : Job → Moved
  | .looking req =>
    if fails then ⟨table, .answered (.status 500)⟩
    else match table.getSdkAccountByUserName req.userName with
      | some account =>
        if account.isNew ≠ 0 then ⟨table, .working (.clearing req account)⟩
        else ⟨table, .answered (ok (.user (sdkUser account account.isNew)))⟩
      | none => ⟨table, .working (.creating req)⟩
  | .creating req =>
    if fails then ⟨table, .answered (.status 500)⟩
    else match table.createSdkAccount req.userName drawn now with
      | some table => ⟨table, .answered (.api 100900 .empty "新账号")⟩
      | none => ⟨table, .answered (.status 500)⟩
  -- An error is only logged.
  | .clearing _ account =>
    ⟨if fails then table else table.clearSdkNewFlag (castU32 account.uid),
      .answered (ok (.user (sdkUser account account.isNew)))⟩
  | .detail auth uid =>
    if fails then ⟨table, .answered (.status 500)⟩
    else match table.getSdkAccount uid with
      | some account => ⟨table, .answered (ok (.detail (sdkDetail account (auth.token.getD "") now)))⟩
      | none => ⟨table, .answered (.status 503)⟩
  | .set uid value =>
    if fails then ⟨table, .answered (.status 500)⟩
    else
      let updated := table.updateSdkNickname uid value
      ⟨updated.1, .answered (if updated.2 then ok .empty else .status 503)⟩

/-- Keep the next job of a request, or answer it. -/
def settle (server : Server) (id : Nat) (http : HttpRequest) (job : Option Job) : Started → Server × Note
  | .working next => ({ server with jobs := Function.update server.jobs id (some (http, next)) }, .quiet)
  | .answered reply =>
    ({ server with jobs := Function.update server.jobs id none }, .answered http job reply)

/-- The SDK service with all its requests. An id is free again once its request is answered. -/
def service (host : Host) : Machine Server Event Note where
  step server event :=
    match event with
    | .receive id http drawn =>
      if (server.jobs id).isSome then none
      else some (settle server id http none (start host http drawn))
    | .advance id drawn now fails =>
      (server.jobs id).map fun (http, job) =>
        let moved := statement server.table drawn now fails job
        settle { server with table := moved.table } id http (some job) moved.outcome

/-- What one statement of a job can do to the table, and what comes of it. -/
inductive Taken (table : AccountTable) (drawn : String) (now : Int) :
    Job → AccountTable → Started → Prop
  | failed (job : Job) : Taken table drawn now job table (.answered (.status 500))
  | flagged (req : LoginReq) (account : SdkAccount)
      (found : table.getSdkAccountByUserName req.userName = some account) :
      Taken table drawn now (.looking req) table (.working (.clearing req account))
  | known (req : LoginReq) (account : SdkAccount)
      (found : table.getSdkAccountByUserName req.userName = some account) :
      Taken table drawn now (.looking req) table
        (.answered (ok (.user (sdkUser account account.isNew))))
  | missing (req : LoginReq) : Taken table drawn now (.looking req) table (.working (.creating req))
  | created (req : LoginReq) (next : AccountTable)
      (inserted : table.createSdkAccount req.userName drawn now = some next) :
      Taken table drawn now (.creating req) next (.answered (.api 100900 .empty "新账号"))
  | reported (req : LoginReq) (account : SdkAccount) (next : AccountTable)
      (kept : next = table ∨ next = table.clearSdkNewFlag (castU32 account.uid)) :
      Taken table drawn now (.clearing req account) next
        (.answered (ok (.user (sdkUser account account.isNew))))
  | shown (auth : AuthInfo) (uid : UInt32) (account : SdkAccount)
      (found : table.getSdkAccount uid = some account) :
      Taken table drawn now (.detail auth uid) table
        (.answered (ok (.detail (sdkDetail account (auth.token.getD "") now))))
  | unknown (auth : AuthInfo) (uid : UInt32) (none : table.getSdkAccount uid = none) :
      Taken table drawn now (.detail auth uid) table (.answered (.status 503))
  | renamed (uid : UInt32) (value : String)
      (affected : table.rows.any (AccountTable.hasUid uid) = true) :
      Taken table drawn now (.set uid value) (table.updateSdkNickname uid value).1
        (.answered (ok .empty))
  | unaffected (uid : UInt32) (value : String)
      (affected : table.rows.any (AccountTable.hasUid uid) = false) :
      Taken table drawn now (.set uid value) (table.updateSdkNickname uid value).1
        (.answered (.status 503))

/-- One case per branch of the handlers. A statement fails as a whole or has all of its effect; its
outcome is what the handler does next. -/
theorem statement_taken (table : AccountTable) (drawn : String) (now : Int) (fails : Bool)
    (job : Job) :
    Taken table drawn now job (statement table drawn now fails job).table
      (statement table drawn now fails job).outcome := by
  cases job with
  | looking req =>
    simp only [statement]
    split
    · exact .failed _
    · split
      · next account found =>
        split
        · exact .flagged req account found
        · exact .known req account found
      · exact .missing req
  | creating req =>
    simp only [statement]
    split
    · exact .failed _
    · split
      · next next inserted => exact .created req next inserted
      · exact .failed _
  | clearing req account =>
    refine .reported req account _ ?_
    cases fails with
    | true => exact .inl rfl
    | false => exact .inr rfl
  | detail auth uid =>
    simp only [statement]
    split
    · exact .failed _
    · split
      · next account found => exact .shown auth uid account found
      · next none => exact .unknown auth uid none
  | set uid value =>
    simp only [statement]
    split
    · exact .failed _
    · cases affected : (table.updateSdkNickname uid value).2 with
      | true => exact .renamed uid value affected
      | false => exact .unaffected uid value affected

/-- The header of a request as the server has read it. -/
def Authorized (host : Host) (http : HttpRequest) (auth : AuthInfo) : Prop :=
  ∃ value, http.authorization = some (some value) ∧ host.authorizationHeader value = some auth

/-- A job asks for or renames the account that the header of its request names. -/
def Job.NamedBy (auth : AuthInfo) : Job → Prop
  | .detail own uid => own = auth ∧ auth.uid.bind parseU32 = some uid
  | .set uid _ => auth.uid.bind parseU32 = some uid
  | _ => True

/-- The data of an account. -/
def Reply.ofAccount : Reply → Bool
  | .api _ (.user _) _ => true
  | .api _ (.detail _) _ => true
  | _ => false

/-- What the handlers come to before any statement. -/
def Started.Proper (host : Host) (http : HttpRequest) : Started → Prop
  | .answered reply => reply.ofAccount = false
  | .working job =>
    (∃ auth, Authorized host http auth ∧ job.NamedBy auth) ∧ ∀ req account, job ≠ .clearing req account

/-- A header has passed, or the path needs none. A header that is missing or that cannot be read
ends the request before its route is looked up. -/
theorem authorize_cases {host : Host} {http : HttpRequest} {auth : Option AuthInfo}
    (passed : authorize host http = .ok auth) :
    (auth = none ∧ isPublic http = true) ∨ ∃ own, auth = some own ∧ Authorized host http own := by
  unfold authorize at passed
  split at passed
  · next open' =>
    cases passed
    exact .inl ⟨rfl, open'⟩
  · split at passed
    · cases passed
    · cases passed
    · next value header =>
      split at passed
      · cases passed
      · next own read =>
        cases passed
        exact .inr ⟨own, rfl, value, header, read⟩

/-- A request for the account that has passed the middleware takes one statement, under the uid of
its own header, or is refused at once. -/
theorem detail_proper {host : Host} {http : HttpRequest} {auth : Option AuthInfo}
    (passed : authorize host http = .ok auth) : (startDetail auth).Proper host http := by
  unfold startDetail
  rcases authorize_cases passed with ⟨rfl, _⟩ | ⟨own, rfl, authorized⟩
  · rfl
  · simp only
    split
    · rfl
    · next uid parsed => exact ⟨⟨own, authorized, rfl, parsed⟩, fun _ _ same => nomatch same⟩

/-- A routed request has the path of its route. -/
theorem routed_path {http : HttpRequest} {wanted : Route} (routed : route http = .ok wanted) :
    ∃ allowed, (http.path, allowed, wanted) ∈ routes := by
  unfold route at routed
  split at routed
  · cases routed
  · next allowed found known =>
    split at routed
    · cases routed
      obtain ⟨_, _, joined, _⟩ := List.lookup_eq_some_iff.mp known
      exact ⟨allowed, joined ▸ List.mem_append_right _ List.mem_cons_self⟩
    · cases routed

/-- The paths of accounts need a header, and no file is under them. -/
theorem account_path {http : HttpRequest}
    (path : http.path ∈ ["/user/login", "/user/detail", "/user/quick-login"]) :
    isPublic http = false ∧ isStatic http.path = false := by
  have elsewhere : ∀ path ∈ ["/user/login", "/user/detail", "/user/quick-login"],
      path ≠ "/" ∧ path ≠ "/common/config" ∧ isStatic path = false := by decide +kernel
  obtain ⟨root, config, file⟩ := elsewhere http.path path
  exact ⟨by simp [isPublic, root, config, file], file⟩

/-- A login is not asked for under a public path. -/
theorem login_protected {http : HttpRequest} (routed : route http = .ok .loginUser) :
    isPublic http = false := by
  obtain ⟨allowed, member⟩ := routed_path routed
  have path : http.path = "/user/login" ∧ allowed = .post := by simpa [routes] using member
  exact (account_path (by rw [path.1]; decide)).1

/-- The request asks for the account its header names. -/
def Asks (http : HttpRequest) : Prop := route http = .ok .userDetail ∨ route http = .ok .quickLogin

/-- An account is not asked for under a public path. -/
theorem asks_protected {http : HttpRequest} (asks : Asks http) :
    isPublic http = false ∧ isStatic http.path = false := by
  rcases asks with routed | routed
  · obtain ⟨allowed, member⟩ := routed_path routed
    have path : http.path = "/user/detail" ∧ allowed = .post := by simpa [routes] using member
    exact account_path (by rw [path.1]; decide)
  · obtain ⟨allowed, member⟩ := routed_path routed
    have path : http.path = "/user/quick-login" ∧ allowed = .post := by simpa [routes] using member
    exact account_path (by rw [path.1]; decide)

/-- A request has one header. -/
theorem Authorized.unique {host : Host} {http : HttpRequest} {left right : AuthInfo}
    (first : Authorized host http left) (second : Authorized host http right) : left = right := by
  obtain ⟨value, header, read⟩ := first
  obtain ⟨value', header', read'⟩ := second
  obtain rfl : value = value' := by simpa [header] using header'
  exact Option.some.inj (read.symm.trans read')

/-- A request that needs a header and has none that can be read is refused at once. The middleware
stands in front of all routes, and it answers 400. -/
theorem start_refused {host : Host} {http : HttpRequest} (drawn : String)
    (closed : isPublic http = false) (refused : ∀ auth, ¬ Authorized host http auth) :
    start host http drawn = .answered (.status 400) := by
  have error : authorize host http = .error 400 := by
    unfold authorize
    rw [closed]
    split
    · next impossible => cases impossible
    · split
      · rfl
      · rfl
      · next value header =>
        cases read : host.authorizationHeader value with
        | none => rfl
        | some auth => exact absurd ⟨value, header, read⟩ (refused auth)
  rw [start, error]

/-- A request for an account goes by what its header names. The route is not public, so the header
decides, and the uid comes from nowhere else. -/
theorem start_asks {host : Host} {http : HttpRequest} (drawn : String) (asks : Asks http) :
    (∃ code, start host http drawn = .answered (.status code) ∧ ∀ auth, ¬ Authorized host http auth) ∨
      ∃ auth, Authorized host http auth ∧ start host http drawn = startDetail (some auth) := by
  obtain ⟨closed, file⟩ := asks_protected asks
  cases passed : authorize host http with
  | error code =>
    refine .inl ⟨code, by rw [start, passed], ?_⟩
    rintro auth ⟨value, header, read⟩
    simp [authorize, closed, header, read] at passed
  | ok auth =>
    rcases authorize_cases passed with ⟨_, open'⟩ | ⟨own, rfl, authorized⟩
    · rw [closed] at open'
      cases open'
    · refine .inr ⟨own, authorized, ?_⟩
      simp only [start, passed, file, Bool.false_eq_true, ↓reduceIte]
      rcases asks with routed | routed
      · rw [routed]
        rfl
      · rw [routed]
        rfl

/-- Without a statement no account is shown, and a request that waits for one has an authorization
header. Every route is a case; those that read or write the table leave a job behind. -/
theorem start_proper (host : Host) (http : HttpRequest) (drawn : String) :
    (start host http drawn).Proper host http := by
  unfold start
  cases passed : authorize host http with
  | error code => rfl
  | ok auth =>
    simp only
    split
    · rfl
    · cases routed : route http with
      | error code => rfl
      | ok route =>
        cases route with
        | index | clientInfo | clientCode | sendCode | clientLog | pgsOauthCode => rfl
        | userDetail | quickLogin => exact detail_proper passed
        | commonConfig =>
          simp only [begin]
          split
          · rfl
          · split <;> rfl
        | getAuth =>
          simp only [begin]
          split
          · rfl
          · split <;> rfl
        | commonVersion =>
          simp only [begin]
          split
          · rfl
          · split <;> rfl
        | loginUser =>
          simp only [begin]
          split
          · rfl
          · split
            · rfl
            · rcases authorize_cases passed with ⟨_, open'⟩ | ⟨own, rfl, authorized⟩
              · rw [login_protected routed] at open'
                cases open'
              · exact ⟨⟨own, authorized, trivial⟩, fun _ _ same => nomatch same⟩
        | userSet =>
          simp only [begin]
          rcases authorize_cases passed with ⟨rfl, _⟩ | ⟨own, rfl, authorized⟩
          · rfl
          · simp only
            split
            · rfl
            · split
              · rfl
              · split
                · rfl
                · next uid parsed => exact ⟨⟨own, authorized, parsed⟩, fun _ _ same => nomatch same⟩

end Sdk

end CheshireLane
