import CheshireLane.Bans

/-!
# The steps of a connection

What receiving a packet and a step of the handling of one can come to, one case for each branch
of the gate.
-/

namespace CheshireLane

variable {Text : Type}

/-- A login that gets to its reads. -/
structure LoginRequest (gate : Gate Text) (packet : Packet) (req : Cs10022) : Prop where
  login : packet.cmdId = 10022
  decoded : gate.game.decoder.cs10022 packet.data = some req
  key : gate.md5WithSalt req.serverTicket = req.checkKey

/-- What receiving a packet comes to, by the slot of its connection. -/
inductive Begins (gate : Gate Text) (world : World Text) (packet : Packet) :
    Option UInt32 → Moved Text → Prop
  | undecodable (slot : Option UInt32) (login : packet.cmdId = 10022)
      (rejected : gate.game.decoder.cs10022 packet.data = none) :
      Begins gate world packet slot ⟨world, some ⟨slot, none⟩, some (packet, [])⟩
  | wrongKey (slot : Option UInt32) (req : Cs10022) (login : packet.cmdId = 10022)
      (decoded : gate.game.decoder.cs10022 packet.data = some req)
      (key : gate.md5WithSalt req.serverTicket ≠ req.checkKey) :
      Begins gate world packet slot
        ⟨world, some ⟨slot, none⟩, some (packet, Gate.loginRefusal packet req 1 0)⟩
  | reading (slot : Option UInt32) (req : Cs10022) (request : LoginRequest gate packet req) :
      Begins gate world packet slot ⟨world, some ⟨slot, some (.readingAccount packet req)⟩, none⟩
  | unbound (play : packet.cmdId ≠ 10022) :
      Begins gate world packet none ⟨world, some ⟨none, none⟩, some (packet, [])⟩
  | bound (uid : UInt32) (play : packet.cmdId ≠ 10022) :
      Begins gate world packet (some uid)
        ⟨world, some ⟨some uid, some (.playing packet uid (.checking (.handle packet)) [])⟩, none⟩

/-- Every packet begins in one of these ways. The cases follow `handle_packet`: whether the packet
is a login, whether it decodes, whether its key is right, and whether the connection is bound. -/
theorem begin_cases (gate : Gate Text) (world : World Text) (packet : Packet) (slot : Option UInt32) :
    Begins gate world packet slot (gate.beginPacket world slot packet) := by
  by_cases login : packet.cmdId = 10022
  · cases decoded : gate.game.decoder.cs10022 packet.data with
    | none =>
      simp only [Gate.beginPacket, login, decoded, ↓reduceIte]
      exact .undecodable slot login decoded
    | some req =>
      by_cases key : gate.md5WithSalt req.serverTicket = req.checkKey
      · simp only [Gate.beginPacket, login, decoded, key, ↓reduceIte]
        exact .reading slot req ⟨login, decoded, key⟩
      · simp only [Gate.beginPacket, login, decoded, key, ↓reduceIte]
        exact .wrongKey slot req login decoded key
  · cases slot with
    | none =>
      simp only [Gate.beginPacket, login, ↓reduceIte]
      exact .unbound login
    | some uid =>
      simp only [Gate.beginPacket, login, ↓reduceIte]
      exact .bound uid login

/-- The answers of a packet behind a step of its call. -/
def CallEffect.answer (out : List Packet) : CallEffect → List Packet
  | .handled _ said => said
  | _ => out

/-- A packet is handled where its player is in memory. -/
theorem advance_handling (game : Game) (serde : Serde Text) (uid : UInt32) (now : Clock)
    (store : Store Text) {session : PlayerSession} (present : store.players uid = some session)
    (packet : Packet) :
    let result := handlePlayerPacket game uid now session.info session.dirty packet
    advanceCall game serde uid now store (.handling packet) =
      ⟨store.keepHandled uid result, (Store.toSave result).map .saving,
        .handled ⟨now, packet⟩ result.out⟩ := by
  simp only [advanceCall, present]

/-- What a step of a packet being handled comes to. It has two constructors for each read of a login
and for the call that loads its player, and three for the call that handles the packet. -/
inductive Advances (gate : Gate Text) (now : Clock) (world : World Text) (slot : Option UInt32) :
    Job → Moved Text → Prop
  | unknown (packet : Packet) (req : Cs10022) (absent : world.accounts req.accountId = none) :
      Advances gate now world slot (.readingAccount packet req)
        ⟨world, some ⟨slot, none⟩, some (packet, Gate.loginRefusal packet req 1 0)⟩
  | known (packet : Packet) (req : Cs10022) (account : Account)
      (registered : world.accounts req.accountId = some account) :
      Advances gate now world slot (.readingAccount packet req)
        ⟨world, some ⟨slot, some (.readingRow packet req account)⟩, none⟩
  | refused (packet : Packet) (req : Cs10022) (account : Account)
      (barred : Gate.banned world req.accountId = true) :
      Advances gate now world slot (.readingRow packet req account) ⟨world, some ⟨slot, none⟩,
        some (packet, Gate.loginRefusal packet req 17 (castU32 account.uid))⟩
  | accepted (packet : Packet) (req : Cs10022) (account : Account)
      (allowed : Gate.banned world req.accountId = false) :
      Advances gate now world slot (.readingRow packet req account) ⟨world, some ⟨some req.accountId,
        some (.entering packet req.accountId (.checking .ensure))⟩, none⟩
  | loading (packet : Packet) (uid : UInt32) (call next : Call)
      (onward : (advanceCall gate.game gate.serde uid now world.store call).call = some next) :
      Advances gate now world slot (.entering packet uid call)
        ⟨{ world with store := (advanceCall gate.game gate.serde uid now world.store call).store },
          some ⟨slot, some (.entering packet uid next)⟩, none⟩
  | loaded (packet : Packet) (uid : UInt32) (call : Call)
      (returned : (advanceCall gate.game gate.serde uid now world.store call).call = none) :
      Advances gate now world slot (.entering packet uid call)
        ⟨{ world with store := (advanceCall gate.game gate.serde uid now world.store call).store },
          some ⟨slot, some (.playing packet uid (.checking (.handle packet)) [])⟩, none⟩
  | missing (packet : Packet) (uid : UInt32) (call : Call) (out : List Packet)
      (failed : (advanceCall gate.game gate.serde uid now world.store call).effect = .notLoaded) :
      Advances gate now world slot (.playing packet uid call out)
        ⟨{ world with store := (advanceCall gate.game gate.serde uid now world.store call).store },
          none, none⟩
  | running (packet : Packet) (uid : UInt32) (call next : Call) (out : List Packet)
      (held : (advanceCall gate.game gate.serde uid now world.store call).effect ≠ .notLoaded)
      (onward : (advanceCall gate.game gate.serde uid now world.store call).call = some next) :
      Advances gate now world slot (.playing packet uid call out)
        ⟨{ world with store := (advanceCall gate.game gate.serde uid now world.store call).store },
          some ⟨slot, some (.playing packet uid next
            ((advanceCall gate.game gate.serde uid now world.store call).effect.answer out))⟩, none⟩
  | finished (packet : Packet) (uid : UInt32) (call : Call) (out : List Packet)
      (held : (advanceCall gate.game gate.serde uid now world.store call).effect ≠ .notLoaded)
      (returned : (advanceCall gate.game gate.serde uid now world.store call).call = none) :
      Advances gate now world slot (.playing packet uid call out)
        ⟨{ world with store := (advanceCall gate.game gate.serde uid now world.store call).store },
          some ⟨slot, none⟩, some (packet,
            (advanceCall gate.game gate.serde uid now world.store call).effect.answer out)⟩

/-- Every step of a job is one of these. The cases are the place at which the job was interrupted
and what it finds there; what the step does follows from the case. -/
theorem advance_cases (gate : Gate Text) (now : Clock) (world : World Text) (slot : Option UInt32)
    (job : Job) : Advances gate now world slot job (gate.advanceJob now world slot job) := by
  cases job with
  | readingAccount packet req =>
    cases found : world.accounts req.accountId with
    | none =>
      simp only [Gate.advanceJob, found]
      exact .unknown packet req found
    | some account =>
      simp only [Gate.advanceJob, found]
      exact .known packet req account found
  | readingRow packet req account =>
    cases barred : Gate.banned world req.accountId with
    | true =>
      simp only [Gate.advanceJob, barred, ↓reduceIte]
      exact .refused packet req account barred
    | false =>
      simp only [Gate.advanceJob, barred, Bool.false_eq_true, ↓reduceIte]
      exact .accepted packet req account barred
  | entering packet uid call =>
    cases onward : (advanceCall gate.game gate.serde uid now world.store call).call with
    | none =>
      simp only [Gate.advanceJob, onward]
      exact .loaded packet uid call onward
    | some next =>
      simp only [Gate.advanceJob, onward]
      exact .loading packet uid call next onward
  | playing packet uid call out =>
    -- The answers change only where the packet is handled.
    cases onward : (advanceCall gate.game gate.serde uid now world.store call).call with
    | none =>
      cases effect : (advanceCall gate.game gate.serde uid now world.store call).effect with
      | notLoaded =>
        simp only [Gate.advanceJob, effect]
        exact .missing packet uid call out effect
      | quiet | fetched info | inserted info | handled incoming handled =>
        have came := @Advances.finished Text gate now world slot packet uid call out
          (by simp [effect]) onward
        simpa only [Gate.advanceJob, effect, onward, CallEffect.answer] using came
    | some next =>
      cases effect : (advanceCall gate.game gate.serde uid now world.store call).effect with
      | notLoaded =>
        simp only [Gate.advanceJob, effect]
        exact .missing packet uid call out effect
      | quiet | fetched info | inserted info | handled incoming handled =>
        have came := @Advances.running Text gate now world slot packet uid call next out
          (by simp [effect]) onward
        simpa only [Gate.advanceJob, effect, onward, CallEffect.answer] using came

end CheshireLane
