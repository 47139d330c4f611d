import CheshireLane.CrashRecovery
import CheshireLane.GivenSkins
import CheshireLane.LoginView
import CheshireLane.ShipIds

/-!
# What a player owns is kept

No packet takes a ship, a skin or a resource away. Ships stay in their order with everything
but the skin they wear; skins stay in the order in which they were first owned. So what a
player owns at one time is the front of what the player owns later: in memory however the
calls interleave, and in the rows over crashes for what a client was shown.
-/

namespace CheshireLane

open Transitions Histories

/-- A ship without the skin it wears. -/
def bare (ship : Shipinfo) : Shipinfo := { ship with skinId := 0 }

/-- The fields that no packet writes. -/
def unwritten (player : PlayerInfo) : PlayerInfo where
  appreciation := player.appreciation
  maxRank := player.maxRank
  pvpAttackCount := player.pvpAttackCount
  pvpWinCount := player.pvpWinCount
  rmb := player.rmb
  winCount := player.winCount
  bag := player.bag
  fleet := player.fleet
  currentChapter := player.currentChapter
  buffList := player.buffList
  commanders := player.commanders
  presets := player.presets
  commanderBox := player.commanderBox

/-- Everything owned in the first record is owned in the second. -/
structure Progress (before after : PlayerInfo) : Prop where
  ships : before.ships.map bare <+: after.ships.map bare
  skins : firstSkins before.shipSkins <+: firstSkins after.shipSkins
  resources : before.resourceList <+: after.resourceList
  others : unwritten after = unwritten before

/-- A change of skin leaves a ship what it is but for the skin. -/
theorem set_skin_bare (shipId skinId : UInt32) (ships : List Shipinfo) :
    (setSkin shipId skinId ships).map bare = ships.map bare := by
  induction ships with
  | nil => rfl
  | cons ship ships inductionHypothesis =>
    unfold setSkin
    split
    · rfl
    · rw [List.map_cons, List.map_cons, inductionHypothesis]

namespace Progress

variable {before middle after : PlayerInfo}

/-- A record has made no progress on itself. -/
theorem refl (player : PlayerInfo) : Progress player player :=
  ⟨List.prefix_refl _, List.prefix_refl _, List.prefix_refl _, rfl⟩

/-- Progress composes: what was kept first is kept on. -/
theorem trans (first : Progress before middle) (second : Progress middle after) :
    Progress before after where
  ships := first.ships.trans second.ships
  skins := first.skins.trans second.skins
  resources := first.resources.trans second.resources
  others := second.others.trans first.others

/-- A new ship is appended, and nothing else changes. -/
theorem add_ship (data : GameData) (player : PlayerInfo) (shipId : UInt32) :
    Progress player (player.addShip data shipId) := by
  rcases player.add_ship_cases data shipId with unchanged | ⟨template, _, added⟩
  · rw [unchanged]
    exact refl player
  · rw [added]
    refine { refl player with ships := ?_ }
    rw [List.map_append]
    exact List.prefix_append ..

/-- Skins are appended, and nothing else changes. -/
theorem add_ship_skin (data : GameData) (player : PlayerInfo) (shipId : UInt32) :
    Progress player (player.addShipSkin data shipId) := by
  rw [add_ship_skin_eq]
  refine { refl player with skins := ?_ }
  show firstSkins player.shipSkins <+: firstSkins (firstSkins (player.shipSkins ++ _))
  rw [firstSkins, firstSkins, firstSkins, Representatives.keep_first_again,
    Representatives.keep_first_append]
  exact List.prefix_append ..

/-- A new role keeps what was owned before it. -/
theorem init (data : GameData) (player : PlayerInfo) (now : Clock) (uid : UInt32)
    (nickName : String) (shipId : UInt32) :
    Progress player (player.init data now uid nickName shipId) :=
  init_invariant data (Progress player) (fun next shipId owned => owned.trans (add_ship data next shipId))
    (fun next owned => owned.trans { refl next with })
    (fun next _ _ owned => owned.trans { refl next with resources := List.prefix_append .. })
    (fun next _ owned => owned.trans { refl next with }) player now uid nickName shipId
    { refl player with }

/-- Every change of a record is progress. One case for each kind of change. The lists that count are
appended to or left alone, and wearing another skin is not counted. -/
theorem change {game : Game} {uid : UInt32} {player next : PlayerInfo}
    (changed : Change game uid player next) : Progress player next := by
  cases changed with
  | role now nickName shipId => exact init game.data player now uid nickName shipId
  | story storyId => exact { refl player with }
  | room roomId => exact { refl player with }
  | secretaries character => exact { refl player with }
  | skin shipId skinId =>
    have same := set_skin_bare shipId skinId player.ships
    exact { refl player with ships := same.symm ▸ List.prefix_refl _ }
  | allShips =>
    exact give_all_ships_invariant game.data (Progress player)
      (fun next shipId owned => owned.trans (add_ship game.data next shipId)) player (refl player)
  | allSkins =>
    exact give_all_skins_invariant game.data (Progress player)
      (fun next shipId owned => owned.trans (add_ship_skin game.data next shipId)) player (refl player)

/-- A packet changes the record by one of these changes, or not at all. -/
theorem handled (game : Game) (uid : UInt32) (now : Clock) (player : PlayerInfo) (dirty : Bool)
    (packet : Packet) : Progress player (handlePlayerPacket game uid now player dirty packet).player := by
  rcases handle_effect game uid now player dirty packet with ⟨same, _⟩ | ⟨changed, _⟩
  · rw [same]
    exact refl player
  · exact change changed

/-- More packets only add to what is owned. -/
theorem packets (game : Game) (uid : UInt32) (initial : PlayerInfo) (first more : List Incoming) :
    Progress (packetsRecord game uid initial first) (packetsRecord game uid initial (first ++ more)) := by
  induction more using List.reverseRecOn with
  | nil =>
    rw [List.append_nil]
    exact refl _
  | append_singleton more incoming inductionHypothesis =>
    rw [← List.append_assoc, packets_record_append]
    exact inductionHypothesis.trans (handled game uid incoming.now _ false incoming.packet)

end Progress

section

variable {Text : Type} {game : Game} {serde : Serde Text} {uid : UInt32}

/-- A step of any call of the player keeps the session and adds to it at most. Only the section that
handles a packet replaces a session, with the record that its changes lead to. -/
theorem advance_progress (now : Clock) {store : Store Text} {session : PlayerSession}
    (present : store.players uid = some session) (call : Call) :
    ∃ later, (advanceCall game serde uid now store call).store.players uid = some later ∧
      Progress session.info later.info := by
  cases call with
  | checking task =>
    simp only [advanceCall]
    split <;> exact ⟨session, present, .refl _⟩
  | loading task =>
    simp only [advanceCall]
    split <;> exact ⟨session, present, .refl _⟩
  | creating task => exact ⟨session, present, .refl _⟩
  | inserting task info =>
    refine ⟨session, ?_, .refl _⟩
    simp only [advanceCall, Store.insert_session_present store uid info session present, present]
  | handling packet =>
    simp only [advanceCall, present, Store.keepHandled, Store.set_session_players]
    exact ⟨_, rfl, .handled game uid now session.info session.dirty packet⟩
  | saving info => exact ⟨session, present, .refl _⟩

/-- Only a packet is answered, from the session as it stands. -/
theorem advance_answer {now : Clock} {store : Store Text} {session : PlayerSession}
    (present : store.players uid = some session) {call : Call} {incoming : Incoming}
    {out : List Packet}
    (handled : (advanceCall game serde uid now store call).effect = .handled incoming out) :
    out = (handlePlayerPacket game uid incoming.now session.info session.dirty incoming.packet).out := by
  cases call with
  | handling packet =>
    simp only [advanceCall, present, CallEffect.handled.injEq] at handled
    obtain ⟨rfl, rfl⟩ := handled
    rfl
  | checking task | loading task | inserting task info =>
    simp only [advanceCall] at handled
    split at handled <;> cases handled
  | creating task | saving info => cases handled

/-- An answer of this player is computed from a record with all that was owned. -/
def AnswersFrom (game : Game) (uid : UInt32) (owned : PlayerInfo) (label : CallLabel) : Prop :=
  ∀ incoming out, label.effect = .handled incoming out → label.id.uid = uid →
    ∃ record dirty, Progress owned record ∧
      out = (handlePlayerPacket game uid incoming.now record dirty incoming.packet).out

/-- In memory nothing that a player owns is lost, in whatever order the steps of any calls of any
players come: the session stays, later records own all that an earlier one did, and so does every
record that an answer is computed from.

A step of another player leaves the session alone, and a step of the player changes it by a packet
or not at all; every change a packet can make is progress, and progress composes. -/
theorem sessions_progress (game : Game) (serde : Serde Text) (uid : UInt32)
    (events : List RuntimeEvent) (state last : RuntimeState Text) (labels : List CallLabel)
    (session : PlayerSession) (present : state.store.players uid = some session)
    (ran : (playerRuntime game serde).run state events = some (last, labels)) :
    (∃ later, last.store.players uid = some later ∧ Progress session.info later.info) ∧
      ∀ label ∈ labels, AnswersFrom game uid session.info label := by
  have final : (∃ later, last.store.players uid = some later ∧ Progress session.info later.info) ∧
      Told (fun _ => AnswersFrom game uid session.info) labels := by
    refine run_told (fun _ _ => True)
      (fun _ state => ∃ later, state.store.players uid = some later ∧
        Progress session.info later.info) ?_
      events state last labels ⟨session, present, .refl _⟩ (Machine.along_trivial _ _) ran
    rintro _ state event next label ⟨held, present, owned⟩ _ taken
    rcases player_step_cases uid taken with ⟨foreign, agree⟩ |
      ⟨id, task, rfl, own, free, rfl, rfl⟩ | ⟨id, now, call, rfl, own, flying, rfl, rfl⟩
    · exact ⟨⟨held, agree.1.1.trans present, owned⟩, fun _ _ _ own => absurd own foreign⟩
    · exact ⟨⟨held, present, owned⟩, fun _ _ same => by cases same⟩
    · obtain ⟨later, found, more⟩ := advance_progress now present call
      exact ⟨⟨later, found, owned.trans more⟩,
        fun _ _ same _ => ⟨held.info, held.dirty, owned, advance_answer present same⟩⟩
  obtain ⟨kept, told⟩ := final
  refine ⟨kept, fun label member => ?_⟩
  obtain ⟨before, after, split⟩ := List.append_of_mem member
  exact told before label after split

/-- Two calls of one player overlap: one makes a new role, the other dresses the ship that is there.
The oil and the ship stay. -/
theorem sessions_progress_role :
    let role : List UInt8 := [10, 4, 110, 105, 99, 107, 16, 155, 188, 6, 26, 0]
    let skin : List UInt8 := [8, 1, 16, 9, 24, 0]
    let decoder : Decoder := { Decoder.deaf with
      cs10024 := fun data => if data = role then some ⟨"nick", 106011⟩ else none
      cs12202 := fun data => if data = skin then some ⟨1, 9⟩ else none }
    let game : Game := ⟨⟨⟨[], by decide⟩, none, none, none⟩, decoder, ""⟩
    let serde : Serde PlayerInfo := ⟨id, some, fun _ => rfl⟩
    let ship : Shipinfo := PlayerInfo.newShip 1 ⟨[], 100, 0, 0, 0, 10601, 106011, 1, 5⟩
    let owner : PlayerInfo := { ships := [ship], resourceList := [⟨2, 7⟩] }
    let state : RuntimeState PlayerInfo :=
      ⟨(Store.started fun _ => none).setSession 1 ⟨owner, false⟩, fun _ => none⟩
    let left (now : Clock) : RuntimeEvent := .advance ⟨1, 0⟩ now
    let right (now : Clock) : RuntimeEvent := .advance ⟨1, 1⟩ now
    let now : Clock := fun _ => 0
    let events : List RuntimeEvent :=
      [.start ⟨1, 0⟩ (.handle ⟨17, 0, 10024, 1, role, []⟩),
        .start ⟨1, 1⟩ (.handle ⟨11, 0, 12202, 2, skin, []⟩),
        left now, right now, left now, right now, right now, left now]
    ∃ last labels later, (playerRuntime game serde).run state events = some (last, labels) ∧
      last.store.players 1 = some later ∧ later.info.level = 100 ∧
      later.info.ships.map Shipinfo.skinId = [9] ∧
      [bare ship] <+: later.info.ships.map bare ∧ [⟨2, 7⟩] <+: later.info.resourceList := by
  intro role skin decoder game serde ship owner state left right now events
  have ran : ((playerRuntime game serde).run state events).bind (fun result =>
      (result.1.store.players 1).map fun session =>
        (session.info.level, session.info.ships.map Shipinfo.skinId)) = some (100, [9]) := rfl
  obtain ⟨⟨last, labels⟩, ran, held⟩ := Option.bind_eq_some_iff.mp ran
  obtain ⟨session, found, facts⟩ := Option.map_eq_some_iff.mp held
  obtain ⟨level, skins⟩ := Prod.mk.inj facts
  obtain ⟨⟨later, present, owned⟩, _⟩ :=
    sessions_progress game serde 1 events state last labels ⟨owner, false⟩ rfl ran
  obtain rfl : session = later := Option.some.inj (found.symm.trans present)
  exact ⟨last, labels, session, ran, found, level, skins, owned.ships, owned.resources⟩

/-- The ledger of a longer history has more packets at most. By induction on what was added: a label
adds the pending packet, or none. -/
theorem acknowledged_grows (uid : UInt32) (history more : List CrashLabel) :
    ∃ later, (Ledger.of uid (history ++ more)).acknowledged =
      (Ledger.of uid history).acknowledged ++ later := by
  induction more using List.reverseRecOn with
  | nil => exact ⟨[], by rw [List.append_nil, List.append_nil]⟩
  | append_singleton more label inductionHypothesis =>
    obtain ⟨earlier, same⟩ := inductionHypothesis
    have entered : ∃ packets, (Ledger.of uid (history ++ more ++ [label])).acknowledged =
        (Ledger.of uid (history ++ more)).acknowledged ++ packets := by
      rw [Ledger.of_append]
      generalize Ledger.of uid (history ++ more) = ledger
      cases label with
      | crashed | failed id => exact ⟨[], (List.append_nil _).symm⟩
      | call label returned =>
        simp only [Ledger.record]
        split
        · unfold Ledger.enter
          split
          · exact ⟨_, rfl⟩
          · exact ⟨[], (List.append_nil _).symm⟩
          · exact ⟨_, rfl⟩
          · exact ⟨[], (List.append_nil _).symm⟩
        · exact ⟨[], (List.append_nil _).symm⟩
    obtain ⟨packets, entered⟩ := entered
    exact ⟨earlier ++ packets, by rw [← List.append_assoc, entered, same, List.append_assoc]⟩

/-- What a record keeps unread stays of its types, whatever packets come. -/
theorem packets_typed (game : Game) (uid : UInt32) {initial : PlayerInfo} (typed : initial.Typed)
    (packets : List Incoming) : (packetsRecord game uid initial packets).Typed := by
  induction packets using List.reverseRecOn with
  | nil => exact typed
  | append_singleton packets incoming inductionHypothesis =>
    rw [packets_record_append]
    rcases after_packet_cases game uid (packetsRecord game uid initial packets) incoming with
      unchanged | change
    · rw [unchanged]
      exact inductionHypothesis
    · exact PlayerInfo.Typed.change game uid _ _ inductionHypothesis change

/-- What a client reads from the bytes of an answer. -/
def shown (out : List Packet) : ClientView := ClientView.of (readBack (out.flatMap Packet.toBytes)).1

/-- All ships and skins of a view are owned, the ships but for the skins they wear. -/
def Owned (view : ClientView) (ships : List Shipinfo) (skins : List Idtimeinfo) : Prop :=
  view.ships.map bare <+: ships.map bare ∧ firstSkins view.skins <+: firstSkins skins

/-- The player's login is answered, and no message of the answer is too long for its frame. -/
structure LoginAnswer (uid : UInt32) (label : CrashLabel) (out : List Packet) : Prop where
  answered : ∃ id now packet returned, label = .call ⟨id, .handled ⟨now, packet⟩ out⟩ returned ∧
    id.uid = uid ∧ packet.cmdId = 11001
  fits : ∀ sent ∈ out, sent.data.length ≤ 65530

/-- A login shows what the acknowledged packets made of the record. -/
theorem login_answer_shown {initial : PlayerInfo} (typed : initial.Typed)
    {before : List CrashLabel} {label : CrashLabel} {out : List Packet}
    (login : LoginAnswer uid label out)
    (answers : AnswersAcknowledged game uid initial before label) :
    let record := packetsRecord game uid initial (Ledger.of uid before).acknowledged
    (shown out).ships = record.ships ∧ (shown out).skins = record.shipSkins := by
  obtain ⟨id, now, packet, returned, same, own, command⟩ := login.answered
  have fits := login.fits
  rw [answers id ⟨now, packet⟩ out returned same own] at fits ⊢
  rw [shown, login_view (packets_typed game uid typed _) command uid false fits]
  exact ⟨rfl, rfl⟩

/-- What a login showed is never lost, over any crashes.

In every run in which the calls of a player do not overlap and no save of its changes fails, the
ships and skins that a client read from the answer to a login are owned in the row at the end, in
their order, and they are in the answer to every later login. This is said of the answers whose
messages fit their frames. A login shows the record of the acknowledged packets, and more packets
only add to what is owned. -/
theorem shown_survives (game : Game) (serde : Serde Text) (uid : UInt32)
    (rows : UInt32 → Option (PlayerRow Text)) (events : List CrashEvent)
    (state : RuntimeState Text) (history : List CrashLabel)
    (orderly : (crashingRuntime game serde).Along (Orderly uid) (.started rows) events)
    (ran : (crashingRuntime game serde).run (.started rows) events = some (state, history))
    (typed : (initialRecord serde rows uid).Typed) :
    let row := (state.store.loaded serde uid).getD {}
    (∀ before label after out, history = before ++ label :: after →
        LoginAnswer uid label out → Owned (shown out) row.ships row.shipSkins) ∧
      ∀ before first between second after out later,
        history = before ++ first :: (between ++ second :: after) →
        LoginAnswer uid first out → LoginAnswer uid second later →
          Owned (shown out) (shown later).ships (shown later).skins := by
  intro row
  let initial := initialRecord serde rows uid
  obtain ⟨durable, told⟩ := run_told (Orderly uid)
    (fun history state => Durable game serde uid initial (.of uid history) state)
    (fun _ _ _ _ _ durable orderly taken => durable_step durable orderly taken) events _ state history
    (durable_started game serde uid rows) orderly ran
  have onward : ∀ before more, Progress
      (packetsRecord game uid initial (Ledger.of uid before).acknowledged)
      (packetsRecord game uid initial (Ledger.of uid (before ++ more)).acknowledged) := by
    intro before more
    obtain ⟨later, same⟩ := acknowledged_grows uid before more
    rw [same]
    exact .packets game uid initial _ later
  constructor
  · intro before label after out split login
    obtain ⟨ships, skins⟩ := login_answer_shown typed login (told before label after split)
    have owned := onward before (label :: after)
    rw [← split, ← durable.row] at owned
    rw [Owned, ships, skins]
    exact ⟨owned.ships, owned.skins⟩
  · intro before first between second after out later split login again
    obtain ⟨ships, skins⟩ := login_answer_shown typed login (told before first _ split)
    have resumed : history = (before ++ first :: between) ++ second :: after := by
      rw [split, List.append_assoc, List.cons_append]
    obtain ⟨ships', skins'⟩ := login_answer_shown typed again (told _ second after resumed)
    have owned := onward before (first :: between)
    rw [Owned, ships, skins, ships', skins']
    exact ⟨owned.ships, owned.skins⟩

/-- The read of the row fails once, then a login shows the ship, and the server crashes. The stored
row has the ship that was read in the answer. -/
theorem shown_survives_ship :
    let game : Game := ⟨⟨⟨[], by decide⟩, none, none, none⟩, Decoder.deaf, ""⟩
    let serde : Serde PlayerInfo := ⟨id, some, fun _ => rfl⟩
    let owner : PlayerInfo :=
      { ships := [PlayerInfo.newShip 1 ⟨[], 100, 0, 0, 0, 10601, 106011, 1, 5⟩] }
    let rows : UInt32 → Option (PlayerRow PlayerInfo) := fun _ => some ⟨0, owner⟩
    let login : Packet := ⟨7, 0, 11001, 1, [8, 1], []⟩
    let onward : CrashEvent := .call (.advance ⟨1, 0⟩ fun _ => 0)
    let events : List CrashEvent :=
      [.call (.start ⟨1, 0⟩ (.handle login)), onward, .fail ⟨1, 0⟩,
        .call (.start ⟨1, 0⟩ (.handle login)), onward, onward, onward, onward, .crash]
    let out := (handlePlayerPacket game 1 (fun _ => 0) owner false login).out
    ∃ state history, (crashingRuntime game serde).run (.started rows) events = some (state, history) ∧
      (shown out).ships = owner.ships ∧
      (shown out).ships.map bare <+: ((state.store.loaded serde 1).getD {}).ships.map bare := by
  intro game serde owner rows login onward events out
  have labels : ((crashingRuntime game serde).run (.started rows) events).map Prod.snd =
      some ([.call ⟨⟨1, 0⟩, .quiet⟩ false, .call ⟨⟨1, 0⟩, .quiet⟩ false, .failed ⟨1, 0⟩,
        .call ⟨⟨1, 0⟩, .quiet⟩ false, .call ⟨⟨1, 0⟩, .quiet⟩ false,
        .call ⟨⟨1, 0⟩, .fetched owner⟩ false, .call ⟨⟨1, 0⟩, .inserted owner⟩ false] ++
        .call ⟨⟨1, 0⟩, .handled ⟨fun _ => 0, login⟩ out⟩ true :: [.crashed]) := rfl
  obtain ⟨⟨state, history⟩, ran, split⟩ := Option.map_eq_some_iff.mp labels
  have orderly := @failed_read_orderly PlayerInfo game serde 1 ⟨1, 0⟩ (.handle login) (fun _ => 0)
    rows _ fun state idle => single_call_orderly game serde 1 ⟨1, 0⟩ (.handle login) (fun _ => 0) 4
      state fun other _ => idle other
  have typed : owner.Typed :=
    ⟨List.forall_mem_nil _, (fun chapter member => by cases member), List.forall_mem_nil _,
      List.forall_mem_nil _, List.forall_mem_singleton.mpr (PlayerInfo.Typed.issued (new_ship_issued _ _))⟩
  have fits : ∀ sent ∈ out, sent.data.length ≤ 65530 :=
    (burst_fits game 1 owner (fun _ => 0) login false rfl).mpr
      (burst_short game owner (fun _ => 0) (by decide) (by decide +kernel))
  have survives := (shown_survives game serde 1 rows events state history orderly ran typed).1 _ _ _
    out split ⟨⟨_, _, _, _, rfl, rfl, rfl⟩, fits⟩
  have view := login_view typed rfl 1 false fits
  exact ⟨state, history, ran, congrArg ClientView.ships view, survives.1⟩

end

end CheshireLane
