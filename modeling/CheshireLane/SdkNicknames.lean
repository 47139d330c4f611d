import CheshireLane.Library.Histories
import CheshireLane.SdkRequests

/-!
# What the SDK tells about accounts

A nickname is a register that is written by one statement and read by another. So
whatever requests come in between, the nickname shown is the last one that was set for
the account when it was read, and an account that a login has shown is found again.
-/

namespace CheshireLane

open Transitions Histories

/-- The sign of a negative number is no digit. -/
theorem parse_int (value : Int) (uid : UInt32) (parsed : parseU32 (toString value) = some uid) :
    value = uid.toNat := by
  cases value with
  | ofNat value =>
    have text : toString (Int.ofNat value) = toString value := rfl
    rw [text, parse_to_string] at parsed
    split at parsed
    · next small =>
      rw [← Option.some.inj parsed, UInt32.toNat_ofNat_of_lt' small]
      rfl
    · cases parsed
  | negSucc value =>
    have text : toString (Int.negSucc value) = "-" ++ toString (value + 1) := rfl
    rw [text] at parsed
    simp [parseU32, Char.isDigit] at parsed

namespace Sdk

/-- The nickname that an answered request has set for the account. -/
def renames (uid : Int) : Note → Option String
  | .answered _ (some (.set target value)) (.api ..) =>
    if (target.toNat : Int) = uid then some value else none
  | _ => none

/-- The last nickname that was set for the account in these answers, if any was. -/
def lastNickname (notes : List Note) (uid : Int) : Option String :=
  (notes.filterMap (renames uid)).getLast?

/-- The nickname of an account by what was answered so far: the last one set, or the
one in the table at first, or the user name. -/
def nickname (first : AccountTable) (notes : List Note) (uid : Int) (userName : String) : String :=
  (lastNickname notes uid).getD
    (((first.rows.find? fun row => row.uid = uid).bind AccountRow.nickName).getD userName)

/-- Every row has the nickname it should have. -/
def Shows (first : AccountTable) (notes : List Note) (table : AccountTable) : Prop :=
  ∀ row ∈ table.rows, ∀ name, row.userName = some name →
    row.nickName.getD name = nickname first notes row.uid name

/-- The account of a name as it was read behind some of the notes. -/
def Seen (first : AccountTable) (notes : List Note) (name : String) (account : SdkAccount) : Prop :=
  ∃ seen, seen <+: notes ∧ account.nickName = nickname first seen account.uid name

/-- The login whose statement this is. -/
def Job.login : Job → Option LoginReq
  | .looking req => some req
  | .creating req => some req
  | .clearing req _ => some req
  | _ => none

/-- The login was answered with an account. -/
def LoginShown (note : Note) (req : LoginReq) (user : SdkUser) : Prop :=
  ∃ http job, note = .answered http (some job) (ok (.user user)) ∧ job.login = some req

/-- The reply to a request for an account that an earlier login has shown: it is the account of the
user name that login had, with the request's own token, unless the statement failed. -/
def OwnAccount (before : List Note) (auth : AuthInfo) (reply : Reply) : Prop :=
  ∀ shown ∈ before, ∀ req user, LoginShown shown req user → auth.uid = some user.userInfo.id →
    ∀ uid, parseU32 user.userInfo.id = some uid →
      reply = .status 500 ∨ ∃ account now,
        reply = ok (.detail (sdkDetail account (auth.token.getD "") now)) ∧
          account.userName = req.userName ∧ account.uid = (uid.toNat : Int)

/-- What holds of an answer, given what was answered in front of it. -/
structure Faithful (host : Host) (first : AccountTable) (before : List Note) (note : Note) : Prop where
  /-- Accounts are asked for and renamed under the uid in the request's own header. -/
  authorized : ∀ http job reply, note = .answered http (some job) reply →
    ∃ auth, Authorized host http auth ∧ job.NamedBy auth
  plain : ∀ http reply, note = .answered http none reply → reply.ofAccount = false
  /-- Without a header that can be read, no statement is taken. -/
  refused : ∀ http job reply, note = .answered http job reply → isPublic http = false →
    (∀ auth, ¬ Authorized host http auth) → job = none ∧ reply = .status 400
  /-- The nickname is the last one set at some moment before. -/
  login : ∀ http job user, note = .answered http (some job) (ok (.user user)) →
    ∃ req account, job.login = some req ∧ user = sdkUser account account.isNew ∧
      Seen first before req.userName account
  /-- The nickname is the last one set, and the token is the request's own. -/
  detail : ∀ http job detail, note = .answered http (some job) (ok (.detail detail)) →
    ∃ auth uid account now, job = .detail auth uid ∧ account.uid = (uid.toNat : Int) ∧
      detail = sdkDetail account (auth.token.getD "") now ∧
      account.nickName = nickname first before uid.toNat account.userName
  /-- An account that a login has shown is found. -/
  found : ∀ http job reply auth, note = .answered http job reply → Asks http →
    Authorized host http auth → OwnAccount before auth reply

/-- Without an answer nothing is said. -/
theorem Faithful.quiet (host : Host) (first : AccountTable) (before : List Note) :
    Faithful host first before .quiet where
  authorized _ _ _ same := nomatch same
  plain _ _ same := nomatch same
  refused _ _ _ same := nomatch same
  login _ _ _ same := nomatch same
  detail _ _ _ same := nomatch same
  found _ _ _ _ same := nomatch same

/-- A job that waits for a statement was let through by the header of its request, and it is for an
account if the request asks for one. -/
structure Job.Belongs (host : Host) (http : HttpRequest) (job : Job) : Prop where
  named : ∃ auth, Authorized host http auth ∧ job.NamedBy auth
  asked : Asks http → ∃ auth uid, job = .detail auth uid

/-- An answer behind a statement, by what the reply is. A request behind a statement has its header
read, so only what the reply shows is left to check. -/
theorem Faithful.answered {host : Host} {first : AccountTable} {before : List Note}
    {http : HttpRequest} {job : Job} {reply : Reply} (belongs : job.Belongs host http)
    (login : ∀ user, reply = ok (.user user) →
      ∃ req account, job.login = some req ∧ user = sdkUser account account.isNew ∧
        Seen first before req.userName account)
    (detail : ∀ detail, reply = ok (.detail detail) →
      ∃ auth uid account now, job = .detail auth uid ∧ account.uid = (uid.toNat : Int) ∧
        detail = sdkDetail account (auth.token.getD "") now ∧
        account.nickName = nickname first before uid.toNat account.userName)
    (found : ∀ auth, Asks http → Authorized host http auth → OwnAccount before auth reply) :
    Faithful host first before (.answered http (some job) reply) where
  authorized := by
    rintro _ _ _ ⟨⟩
    exact belongs.named
  plain _ _ same := nomatch same
  refused := by
    rintro _ _ _ ⟨⟩ _ refused
    obtain ⟨auth, authorized, _⟩ := belongs.named
    exact absurd authorized (refused auth)
  login := by
    rintro _ _ user same
    simp only [Note.answered.injEq, Option.some.injEq] at same
    obtain ⟨_, rfl, replied⟩ := same
    exact login user replied
  detail := by
    rintro _ _ shown same
    simp only [Note.answered.injEq, Option.some.injEq] at same
    obtain ⟨_, rfl, replied⟩ := same
    exact detail shown replied
  found := by
    rintro _ _ _ auth ⟨⟩
    exact found auth

/-- One more answer is the last one that counts, if it sets a nickname of the account. -/
theorem last_nickname_append (notes : List Note) (note : Note) (uid : Int) :
    lastNickname (notes ++ [note]) uid = (renames uid note).or (lastNickname notes uid) := by
  unfold lastNickname
  rw [List.filterMap_append, List.getLast?_append]
  congr 1
  cases renamed : renames uid note <;> simp [renamed]

/-- An answer that sets no nickname leaves the last one as it is. -/
theorem last_nickname_quiet (notes : List Note) {note : Note}
    (silent : ∀ uid, renames uid note = none) :
    lastNickname (notes ++ [note]) = lastNickname notes := by
  funext uid
  rw [last_nickname_append, silent, Option.none_or]

/-- An answer that sets no nickname leaves all nicknames as they are. -/
theorem nickname_quiet (first : AccountTable) (notes : List Note) {note : Note}
    (silent : ∀ uid, renames uid note = none) :
    nickname first (notes ++ [note]) = nickname first notes := by
  funext uid name
  simp only [nickname, last_nickname_quiet notes silent]

variable {host : Host} {first table next : AccountTable} {notes : List Note}

/-- What was seen stays seen: the moment lies in front of later answers too. -/
theorem Seen.later {name : String} {account : SdkAccount} (note : Note)
    (seen : Seen first notes name account) : Seen first (notes ++ [note]) name account := by
  obtain ⟨front, early, shown⟩ := seen
  exact ⟨front, early.trans (List.prefix_append _ _), shown⟩

/-- Where no nickname is set, the rows go on showing what they showed. -/
theorem shows_quiet {note : Note} (shows' : Shows first notes table)
    (silent : ∀ uid, renames uid note = none) : Shows first (notes ++ [note]) table := by
  rw [Shows, nickname_quiet first notes silent]
  exact shows'

/-- Lowering a flag changes no nickname. -/
theorem shows_cleared (shows' : Shows first notes table) (uid : UInt32) :
    Shows first notes (table.clearSdkNewFlag uid) := by
  intro row lowered name named
  obtain ⟨old, member, rfl⟩ := List.mem_map.mp lowered
  have nick : (AccountTable.lowerFlag uid old).nickName = old.nickName := by
    unfold AccountTable.lowerFlag
    split <;> rfl
  rw [AccountTable.lower_flag_name] at named
  rw [nick, AccountTable.lower_flag_uid]
  exact shows' old member name named

/-- A new row has the user name for its nickname. Its uid was not issued before. So no rename speaks
of it, and the nicknames of the other rows are as they were. -/
theorem shows_created (shows' : Shows first notes table) (sequence : first.sequence ≤ table.sequence)
    (renamed : ∀ uid, (lastNickname notes uid).isSome = true → uid ≤ table.sequence)
    {name token : String} {createdAt : Int}
    (inserted : table.createSdkAccount name token createdAt = some next) :
    Shows first notes next := by
  intro row member other named
  rw [AccountTable.created_rows inserted] at member
  rcases List.mem_append.mp member with old | new
  · exact shows' row old other named
  · obtain rfl := List.mem_singleton.mp new
    obtain rfl := Option.some.inj named
    have unset : lastNickname notes (table.sequence + 1) = none := by
      by_contra set
      have bound := renamed _ (Option.isSome_iff_ne_none.mpr set)
      omega
    have unissued : first.rows.find? (fun row => row.uid = table.sequence + 1) = none := by
      refine List.find?_eq_none.mpr fun row member => ?_
      have bound := first.issued row member
      have different : row.uid ≠ table.sequence + 1 := by omega
      simpa using different
    have uid : (table.newRow name token createdAt).uid = table.sequence + 1 := rfl
    rw [nickname, uid, unset, unissued]
    rfl

/-- A new nickname is shown in the row it was set for and in no other. Rows are chosen by their uid,
which no two of them share. -/
theorem shows_renamed (shows' : Shows first notes table) (http : HttpRequest) (uid : UInt32)
    (value : String) :
    Shows first (notes ++ [.answered http (some (.set uid value)) (ok .empty)])
      (table.updateSdkNickname uid value).1 := by
  intro row renamed name named
  obtain ⟨old, member, rfl⟩ := List.mem_map.mp renamed
  rw [AccountTable.rename_name] at named
  rw [AccountTable.rename_uid, nickname, last_nickname_append]
  by_cases target : (uid.toNat : Int) = old.uid
  · have chosen : AccountTable.hasUid uid old = true := by
      simp [AccountTable.hasUid, target, named]
    simp only [AccountTable.rename, chosen, ↓reduceIte, renames, ok, target, Option.some_or,
      Option.getD_some]
  · have other : AccountTable.hasUid uid old = false := by
      simp [AccountTable.hasUid, Ne.symm target]
    simp only [AccountTable.rename, other, Bool.false_eq_true, ↓reduceIte, renames, ok, target,
      Option.none_or]
    exact shows' old member name named

/-- A new nickname keeps all rows, up to the nickname. -/
theorem kept_renamed (uid : UInt32) (value : String) :
    AccountTable.Kept table (table.updateSdkNickname uid value).1 := by
  intro row member
  obtain ⟨_, same⟩ := AccountTable.rename_keeps uid value row
  exact ⟨AccountTable.rename uid value row, List.mem_map_of_mem member, by rw [same], by rw [same],
    by rw [same], fun lowered => by rw [same]; exact lowered⟩

/-- An account found by name is its row's. -/
theorem found_by_name {name : String} {account : SdkAccount}
    (found : table.getSdkAccountByUserName name = some account) :
    ∃ row ∈ table.rows, row.userName = some name ∧ row.uid = account.uid ∧
      account.nickName = row.nickName.getD name := by
  obtain ⟨row, first, rfl⟩ := Option.map_eq_some_iff.mp found
  exact ⟨row, List.mem_of_find?_eq_some first, by simpa using List.find?_some first, rfl, rfl⟩

/-- An account found by uid is its row's. -/
theorem found_by_uid {uid : UInt32} {account : SdkAccount}
    (found : table.getSdkAccount uid = some account) :
    ∃ row ∈ table.rows, row.userName = some account.userName ∧ account.uid = (uid.toNat : Int) ∧
      row.uid = account.uid ∧ account.nickName = row.nickName.getD account.userName := by
  obtain ⟨row, first, named⟩ := Option.bind_eq_some_iff.mp found
  obtain ⟨name, userName, rfl⟩ := Option.map_eq_some_iff.mp named
  have chosen := List.find?_some first
  simp only [AccountTable.hasUid, Bool.and_eq_true, decide_eq_true_eq] at chosen
  exact ⟨row, List.mem_of_find?_eq_some first, userName, chosen.1, rfl, rfl⟩

/-- A new account takes the next uid. -/
theorem created_sequence {name token : String} {createdAt : Int}
    (inserted : table.createSdkAccount name token createdAt = some next) :
    next.sequence = table.sequence + 1 := by
  unfold AccountTable.createSdkAccount at inserted
  split at inserted
  · cases inserted
    rfl
  · cases inserted

/-- An update that affects no row changes nothing. -/
theorem rename_unaffected {uid : UInt32} (value : String)
    (affected : table.rows.any (AccountTable.hasUid uid) = false) :
    (table.updateSdkNickname uid value).1 = table := by
  have rows : table.rows.map (AccountTable.rename uid value) = table.rows := by
    rw [List.any_eq_false] at affected
    refine (List.map_congr_left fun row member => ?_).trans (List.map_id _)
    rw [AccountTable.rename, if_neg (affected row member), id]
  cases table
  simpa only [AccountTable.updateSdkNickname, AccountTable.mk.injEq, and_true] using rows

/-- A row is the only one with its uid. -/
theorem row_by_uid {row : AccountRow} (member : row ∈ table.rows) :
    (table.rows.find? fun other => other.uid = row.uid) = some row := by
  cases found : table.rows.find? fun other => other.uid = row.uid with
  | none => simpa using List.find?_eq_none.mp found row member
  | some other =>
    have same : other.uid = row.uid := by simpa using List.find?_some found
    rw [List.inj_on_of_nodup_map table.uids (List.mem_of_find?_eq_some found) member same]

/-- An account that was registered under a uid is found by it. -/
theorem registered_found {name token : String} {uid : UInt32}
    (registered : table.Registered name token uid.toNat) : table.getSdkAccount uid ≠ none := by
  obtain ⟨row, member, named, _, same⟩ := registered
  intro none
  have chosen : AccountTable.hasUid uid row = true := by simp [AccountTable.hasUid, same, named]
  cases found : table.rows.find? (AccountTable.hasUid uid) with
  | none => exact List.find?_eq_none.mp found row member chosen
  | some other =>
    have fits := List.find?_some found
    simp only [AccountTable.getSdkAccount, found, Option.bind_some, Option.map_eq_none_iff] at none
    simp [AccountTable.hasUid, none] at fits

/-- An account that is found under a uid is the one that was registered under it. -/
theorem registered_same {name token : String} {uid : UInt32} {account : SdkAccount}
    (registered : table.Registered name token uid.toNat)
    (found : table.getSdkAccount uid = some account) : account.userName = name := by
  obtain ⟨row, member, named, _, same⟩ := registered
  obtain ⟨other, inside, userName, target, uid', _⟩ := found_by_uid found
  obtain rfl := List.inj_on_of_nodup_map table.uids inside member
    (uid'.trans (target.trans same.symm))
  exact Option.some.inj (userName.symm.trans named)

/-- The server is as its answers say: rows show the nicknames that were set, waiting
requests have passed the authorization check, and accounts once shown are registered. -/
structure Reflected (host : Host) (first : AccountTable) (notes : List Note) (server : Server) :
    Prop where
  shows : Shows first notes server.table
  sequence : first.sequence ≤ server.table.sequence
  renamed : ∀ uid, (lastNickname notes uid).isSome = true → uid ≤ server.table.sequence
  waiting : ∀ id http job, server.jobs id = some (http, job) → job.Belongs host http
  clearing : ∀ id http req account, server.jobs id = some (http, .clearing req account) →
    Seen first notes req.userName account ∧
      server.table.Registered req.userName account.token account.uid
  shown : ∀ note ∈ notes, ∀ req user, LoginShown note req user →
    ∃ uid, server.table.Registered req.userName user.userInfo.token uid ∧
      user.userInfo.id = toString uid

namespace Reflected

variable {server : Server}

/-- At the start nothing was answered, and the rows show what they show. -/
theorem begin (host : Host) (first : AccountTable) : Reflected host first [] ⟨first, fun _ => none⟩ where
  shows := by
    intro row member name named
    rw [nickname, row_by_uid member]
    rfl
  sequence := Int.le_refl _
  renamed _ set := nomatch set
  waiting _ _ _ request := nomatch request
  clearing _ _ _ _ request := nomatch request
  shown _ member := nomatch member

/-- A request has moved, and the table holds what it held. Each field of the invariant looks at the
new note, or falls back on what was known before. -/
theorem moved (reflected : Reflected host first notes server) (id : Nat) (note : Note)
    (entry : Option (HttpRequest × Job)) (kept : AccountTable.Kept server.table table)
    (shows' : Shows first (notes ++ [note]) table)
    (sequence : server.table.sequence ≤ table.sequence)
    (renamed : ∀ uid, (renames uid note).isSome = true → uid ≤ table.sequence)
    (waiting : ∀ http job, entry = some (http, job) → job.Belongs host http)
    (clearing : ∀ http req account, entry = some (http, .clearing req account) →
      Seen first notes req.userName account ∧
        table.Registered req.userName account.token account.uid)
    (shown : ∀ req user, LoginShown note req user →
      ∃ uid, table.Registered req.userName user.userInfo.token uid ∧
        user.userInfo.id = toString uid) :
    Reflected host first (notes ++ [note]) ⟨table, Function.update server.jobs id entry⟩ where
  shows := shows'
  sequence := Int.le_trans reflected.sequence sequence
  renamed uid set := by
    rw [last_nickname_append] at set
    cases fresh : renames uid note with
    | some value => exact renamed uid (by rw [fresh]; rfl)
    | none =>
      rw [fresh, Option.none_or] at set
      exact Int.le_trans (reflected.renamed uid set) sequence
  waiting other http job request := by
    simp only [Function.update_apply] at request
    split at request
    · exact waiting http job request
    · exact reflected.waiting other http job request
  clearing other http req account request := by
    simp only [Function.update_apply] at request
    split at request
    · obtain ⟨seen, registered⟩ := clearing http req account request
      exact ⟨seen.later note, registered⟩
    · obtain ⟨seen, registered⟩ := reflected.clearing other http req account request
      exact ⟨seen.later note, kept.registered registered⟩
  shown earlier member req user said := by
    rcases List.mem_append.mp member with old | new
    · obtain ⟨uid, registered, same⟩ := reflected.shown earlier old req user said
      exact ⟨uid, kept.registered registered, same⟩
    · obtain rfl := List.mem_singleton.mp new
      exact shown req user said

/-- A request has moved without a word about an account. -/
theorem silent (reflected : Reflected host first notes server) (id : Nat) {note : Note}
    {entry : Option (HttpRequest × Job)} (quiet : ∀ uid, renames uid note = none)
    (mute : ∀ req user, ¬ LoginShown note req user)
    (waiting : ∀ http job, entry = some (http, job) → job.Belongs host http ∧
      ∀ req account, job = .clearing req account → Seen first notes req.userName account ∧
        server.table.Registered req.userName account.token account.uid) :
    Reflected host first (notes ++ [note])
      { server with jobs := Function.update server.jobs id entry } :=
  reflected.moved id note entry (.refl _) (shows_quiet reflected.shows quiet) (Int.le_refl _)
    (fun uid set => by rw [quiet uid] at set; cases set)
    (fun http job same => (waiting http job same).1)
    (fun http req account same => (waiting http _ same).2 req account rfl)
    (fun req user said => absurd said (mute req user))

/-- A request goes on to its next statement, which is for no account yet or clears a flag that was
read. -/
theorem continued (reflected : Reflected host first notes server) (id : Nat) {http : HttpRequest}
    {job : Job} (belongs : job.Belongs host http)
    (clearing : ∀ req account, job = .clearing req account → Seen first notes req.userName account ∧
      server.table.Registered req.userName account.token account.uid) :
    Reflected host first (notes ++ [.quiet])
        { server with jobs := Function.update server.jobs id (some (http, job)) } ∧
      Faithful host first notes .quiet := by
  refine ⟨reflected.silent id (fun _ => rfl) ?_ ?_, .quiet host first notes⟩
  · rintro _ _ ⟨_, _, ⟨⟩, _⟩
  · rintro _ _ ⟨⟩
    exact ⟨belongs, clearing⟩

/-- A request arrives. It is answered at once, or it waits for a statement and was let through by
its header. -/
theorem received (reflected : Reflected host first notes server) (id : Nat) (http : HttpRequest)
    (drawn : String) :
    Reflected host first (notes ++ [(settle server id http none (start host http drawn)).2])
        (settle server id http none (start host http drawn)).1 ∧
      Faithful host first notes (settle server id http none (start host http drawn)).2 := by
  have proper := start_proper host http drawn
  cases started : start host http drawn with
  | answered reply =>
    rw [started] at proper
    refine ⟨reflected.silent id (fun _ => rfl) ?_ (fun _ _ same => nomatch same), ?_⟩
    · rintro req user ⟨_, _, ⟨⟩, _⟩
    · refine ⟨?_, ?_, ?_, ?_, ?_, ?_⟩
      · rintro _ _ _ ⟨⟩
      · rintro _ _ ⟨⟩
        exact proper
      · rintro _ _ _ ⟨⟩ closed refused
        rw [start_refused drawn closed refused] at started
        exact ⟨rfl, (Started.answered.inj started).symm⟩
      · rintro _ _ _ ⟨⟩
      · rintro _ _ _ ⟨⟩
      · rintro _ _ _ auth ⟨⟩ asks authorized shown _ req user _ asked uid parsed
        rcases start_asks drawn asks with ⟨_, _, refused⟩ | ⟨own, passed, detail⟩
        · exact absurd authorized (refused auth)
        · obtain rfl := authorized.unique passed
          simp [detail, startDetail, asked, parsed] at started
  | working job =>
    rw [started] at proper
    refine reflected.continued id ⟨proper.1, fun asks => ?_⟩
      fun req account same => absurd same (proper.2 req account)
    rcases start_asks drawn asks with ⟨_, answered, _⟩ | ⟨own, _, detail⟩
    · rw [started] at answered
      cases answered
    · simp only [detail, startDetail] at started
      split at started
      · cases started
      · cases started
        exact ⟨_, _, rfl⟩

/-- A statement was answered without a word about an account, and the table holds what it held. Such
replies are the errors and the empty ones, and they promise nothing about a nickname. -/
theorem settled (reflected : Reflected host first notes server) (id : Nat) {http : HttpRequest}
    {job : Job} {reply : Reply} (waits : server.jobs id = some (http, job))
    (kept : AccountTable.Kept server.table table)
    (shows' : Shows first (notes ++ [.answered http (some job) reply]) table)
    (sequence : server.table.sequence ≤ table.sequence)
    (renamed : ∀ uid, (renames uid (.answered http (some job) reply)).isSome = true →
      uid ≤ table.sequence)
    (mute : reply.ofAccount = false)
    (found : ∀ auth, Asks http → Authorized host http auth → OwnAccount notes auth reply) :
    Reflected host first (notes ++ [.answered http (some job) reply])
        ⟨table, Function.update server.jobs id none⟩ ∧
      Faithful host first notes (.answered http (some job) reply) := by
  refine ⟨reflected.moved id _ none kept shows' sequence renamed (fun _ _ same => nomatch same)
    (fun _ _ _ same => nomatch same) ?_, .answered (reflected.waiting id http job waits) ?_ ?_ found⟩
  · rintro req user ⟨_, _, ⟨⟩, _⟩
    cases mute
  · rintro user rfl
    cases mute
  · rintro detail rfl
    cases mute

/-- The same for a statement that leaves the table as it is. -/
theorem answered (reflected : Reflected host first notes server) (id : Nat) {http : HttpRequest}
    {job : Job} {reply : Reply} (waits : server.jobs id = some (http, job))
    (quiet : ∀ uid, renames uid (.answered http (some job) reply) = none)
    (mute : reply.ofAccount = false)
    (found : ∀ auth, Asks http → Authorized host http auth → OwnAccount notes auth reply) :
    Reflected host first (notes ++ [.answered http (some job) reply])
        { server with jobs := Function.update server.jobs id none } ∧
      Faithful host first notes (.answered http (some job) reply) :=
  reflected.settled id waits (.refl _) (shows_quiet reflected.shows quiet) (Int.le_refl _)
    (fun uid set => by rw [quiet uid] at set; cases set) mute found

/-- A login was answered with the account of its name. The account was seen in the table while the
request was under way, so its nickname was set at some moment before. -/
theorem reported (reflected : Reflected host first notes server) (id : Nat) {http : HttpRequest}
    {job : Job} {req : LoginReq} {account : SdkAccount}
    (waits : server.jobs id = some (http, job)) (login : job.login = some req)
    (kept : AccountTable.Kept server.table table) (shows' : Shows first notes table)
    (sequence : server.table.sequence ≤ table.sequence)
    (seen : Seen first notes req.userName account)
    (registered : server.table.Registered req.userName account.token account.uid) :
    Reflected host first
        (notes ++ [.answered http (some job) (ok (.user (sdkUser account account.isNew)))])
        { table, jobs := Function.update server.jobs id none } ∧
      Faithful host first notes
        (.answered http (some job) (ok (.user (sdkUser account account.isNew)))) := by
  have quiet : ∀ uid, renames uid
      (.answered http (some job) (ok (.user (sdkUser account account.isNew)))) = none := by
    intro uid
    cases job with
    | set target value => cases login
    | _ => rfl
  constructor
  · refine reflected.moved id _ none kept (shows_quiet shows' quiet) sequence ?_
      (fun _ _ same => nomatch same) (fun _ _ _ same => nomatch same) ?_
    · intro uid set
      rw [quiet uid] at set
      cases set
    · rintro other user ⟨_, _, ⟨⟩, asked⟩
      obtain rfl := Option.some.inj (login.symm.trans asked)
      exact ⟨account.uid, kept.registered registered, rfl⟩
  · have belongs := reflected.waiting id http job waits
    refine .answered belongs ?_ ?_ fun auth asks => ?_
    · rintro user ⟨⟩
      exact ⟨req, account, login, rfl, seen⟩
    · rintro detail ⟨⟩
    · obtain ⟨_, _, rfl⟩ := belongs.asked asks
      cases login

/-- A job for the account of an earlier login is for the uid that was shown, which is registered. -/
theorem asked (reflected : Reflected host first notes server) {http : HttpRequest}
    {auth own : AuthInfo} {uid uid' : UInt32} (belongs : (Job.detail auth uid).Belongs host http)
    (passed : Authorized host http own) {note : Note} (member : note ∈ notes) {req : LoginReq}
    {user : SdkUser} (login : LoginShown note req user) (asked : own.uid = some user.userInfo.id)
    (parsed : parseU32 user.userInfo.id = some uid') :
    auth = own ∧ uid = uid' ∧
      server.table.Registered req.userName user.userInfo.token uid'.toNat := by
  obtain ⟨named, authorized, rfl, target⟩ := belongs.named
  obtain rfl := authorized.unique passed
  obtain ⟨value, registered, text⟩ := reflected.shown note member req user login
  have same : uid = uid' := by
    rw [asked, Option.bind_some, parsed] at target
    exact (Option.some.inj target).symm
  rw [text] at parsed
  exact ⟨rfl, same, parse_int value uid' parsed ▸ registered⟩

/-- A request takes a statement. One case per branch of the handlers. A failing statement answers
500. Otherwise the statement finds a row, finds none, or writes one, and the lemmas above say what
each kind of reply keeps. -/
theorem advanced (reflected : Reflected host first notes server) (id : Nat) {http : HttpRequest}
    {job : Job} {drawn : String} {now : Int} {outcome : Started}
    (waits : server.jobs id = some (http, job))
    (taken : Taken server.table drawn now job table outcome) :
    Reflected host first
        (notes ++ [(settle { server with table } id http (some job) outcome).2])
        (settle { server with table } id http (some job) outcome).1 ∧
      Faithful host first notes (settle { server with table } id http (some job) outcome).2 := by
  have belongs := reflected.waiting id http job waits
  have elsewhere : (∀ auth uid, job ≠ .detail auth uid) → ¬ Asks http := by
    intro other asks
    obtain ⟨auth, uid, same⟩ := belongs.asked asks
    exact other auth uid same
  cases taken with
  | failed job =>
    refine reflected.answered id waits ?_ rfl fun _ _ _ _ _ _ _ _ _ _ _ => .inl rfl
    intro uid
    cases job <;> rfl
  | flagged req account found =>
    obtain ⟨row, member, named, uid, nick⟩ := found_by_name found
    have shown := reflected.shows row member req.userName named
    obtain ⟨auth, passed, _⟩ := belongs.named
    refine reflected.continued id
      ⟨⟨auth, passed, trivial⟩, fun asks => absurd asks (elsewhere (by simp))⟩ ?_
    rintro _ _ ⟨⟩
    exact ⟨⟨notes, List.prefix_refl _, by rw [nick, shown, uid]⟩, AccountTable.found_registered found⟩
  | known req account found =>
    obtain ⟨row, member, named, uid, nick⟩ := found_by_name found
    have shown := reflected.shows row member req.userName named
    exact reflected.reported id waits rfl (.refl _) reflected.shows (Int.le_refl _)
      ⟨notes, List.prefix_refl _, by rw [nick, shown, uid]⟩ (AccountTable.found_registered found)
  | missing req =>
    obtain ⟨auth, passed, _⟩ := belongs.named
    exact reflected.continued id
      ⟨⟨auth, passed, trivial⟩, fun asks => absurd asks (elsewhere (by simp))⟩ (by simp)
  | created req table inserted =>
    have fresh := shows_created reflected.shows reflected.sequence reflected.renamed inserted
    refine reflected.settled id waits (AccountTable.kept_created inserted)
      (shows_quiet fresh fun _ => rfl) ?_ (fun _ set => nomatch set) rfl
      fun _ asks => absurd asks (elsewhere (by simp))
    rw [created_sequence inserted]
    exact Int.le_of_lt (Int.lt_succ _)
  | reported req account table kept =>
    obtain ⟨seen, registered⟩ := reflected.clearing id http req account waits
    rcases kept with rfl | rfl
    · exact reflected.reported id waits rfl (.refl _) reflected.shows (Int.le_refl _) seen registered
    · exact reflected.reported id waits rfl (AccountTable.kept_cleared _)
        (shows_cleared reflected.shows _) (Int.le_refl _) seen registered
  | shown auth uid account found =>
    obtain ⟨row, member, named, target, same, nick⟩ := found_by_uid found
    have shown := reflected.shows row member account.userName named
    refine ⟨reflected.silent id (fun _ => rfl) ?_ (fun _ _ same => nomatch same),
      .answered belongs ?_ ?_ ?_⟩
    · rintro _ _ ⟨_, _, ⟨⟩, _⟩
    · rintro _ ⟨⟩
    · rintro _ ⟨⟩
      exact ⟨auth, uid, account, now, rfl, target, rfl, by rw [nick, shown, same, target]⟩
    · intro own _ passed note member req user login asked uid' parsed
      obtain ⟨rfl, rfl, registered⟩ :=
        reflected.asked belongs passed member login asked parsed
      exact .inr ⟨account, now, rfl, registered_same registered found, target⟩
  | unknown auth uid none =>
    refine reflected.answered id waits (fun _ => rfl) rfl ?_
    intro own _ passed note member req user login asked uid' parsed
    obtain ⟨rfl, rfl, registered⟩ := reflected.asked belongs passed member login asked parsed
    exact absurd none (registered_found registered)
  | renamed uid value affected =>
    refine reflected.settled id waits (kept_renamed uid value)
      (shows_renamed reflected.shows http uid value) (Int.le_refl _) ?_ rfl
      fun _ asks => absurd asks (elsewhere (by simp))
    intro target set
    obtain ⟨row, member, chosen⟩ := List.any_eq_true.mp affected
    simp only [AccountTable.hasUid, Bool.and_eq_true, decide_eq_true_eq] at chosen
    have bound := server.table.issued row member
    have same : (uid.toNat : Int) = target := by
      by_contra different
      simp [renames, ok, different] at set
    exact same ▸ chosen.1 ▸ bound
  | unaffected uid value affected =>
    rw [rename_unaffected value affected]
    exact reflected.answered id waits (fun _ => rfl) rfl fun _ asks =>
      absurd asks (elsewhere (by simp))

/-- Every step keeps the server as its answers say, and what it answers is faithful. One case for
each statement a job may wait for. -/
theorem step (reflected : Reflected host first notes server) {event : Event} {next : Server}
    {note : Note} (taken : (service host).step server event = some (next, note)) :
    Reflected host first (notes ++ [note]) next ∧ Faithful host first notes note := by
  cases event with
  | receive id http drawn =>
    simp only [service] at taken
    split at taken
    · cases taken
    · have received := reflected.received id http drawn
      rwa [Option.some.inj taken] at received
  | advance id drawn now fails =>
    obtain ⟨⟨http, job⟩, waits, moved⟩ := Option.map_eq_some_iff.mp taken
    have advanced := reflected.advanced id waits (statement_taken server.table drawn now fails job)
    simp only at moved
    rwa [moved] at advanced

end Reflected

/-- Over every run the server is as its answers say, and the answers are faithful. -/
theorem run_reflected (host : Host) (first : AccountTable) (events : List Event)
    (server : Server) (notes : List Note)
    (ran : (service host).run ⟨first, fun _ => none⟩ events = some (server, notes)) :
    Reflected host first notes server ∧ Told (Faithful host first) notes :=
  run_told (fun _ _ => True) (Reflected host first)
    (fun _ _ _ _ _ before _ taken => before.step taken) events _ server notes (.begin host first)
    (Machine.along_trivial _ events) ran

end Sdk

end CheshireLane
