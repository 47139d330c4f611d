import CheshireLane.SessionOpening

/-!
# The history of a session

The labels of a run tell who inserted a session, with which record, and which
packets were handled in which order. Whatever the interleaving, each session is
what replaying those packets one after another from the inserted record gives,
and the answers are those of the replay. Other players have no part in it.
-/

namespace CheshireLane

open Transitions

variable {Text : Type} {game : Game} {serde : Serde Text}

/-- Who inserted which session, if this step inserted that of the player. -/
def CallLabel.insertion (uid : UInt32) (label : CallLabel) : Option (CallId × PlayerInfo) :=
  match label.effect with
  | .inserted info => if label.id.uid = uid then some (label.id, info) else none
  | _ => none

/-- The packet of the player handled in this step, and its answers. -/
def CallLabel.answered (uid : UInt32) (label : CallLabel) : Option (Incoming × List Packet) :=
  match label.effect with
  | .handled incoming out => if label.id.uid = uid then some (incoming, out) else none
  | _ => none

/-- The record this call fetched in this step. -/
def CallLabel.fetch (id : CallId) (label : CallLabel) : Option PlayerInfo :=
  match label.effect with
  | .fetched info => if label.id = id then some info else none
  | _ => none

/-- The sessions that were opened for the player, with the calls that did it. -/
def insertions (uid : UInt32) (log : List CallLabel) : List (CallId × PlayerInfo) :=
  log.filterMap (CallLabel.insertion uid)

/-- The packets of the player in the order of their lock sections, with their answers. -/
def handledBy (uid : UInt32) (log : List CallLabel) : List (Incoming × List Packet) :=
  log.filterMap (CallLabel.answered uid)

/-- The packets of the player in the order of their lock sections. -/
def packetsOf (uid : UInt32) (log : List CallLabel) : List Incoming :=
  (handledBy uid log).map Prod.fst

/-- The record that the call has loaded last. -/
def lastFetched (id : CallId) (log : List CallLabel) : Option PlayerInfo :=
  (log.filterMap (CallLabel.fetch id)).getLast?

/-- A packet with the answers of a sequential server. -/
def replied (game : Game) (uid : UInt32) (visit : PlayerInfo × Incoming) :
    Incoming × List Packet :=
  (visit.2, (handlePlayerPacket game uid visit.2.now visit.1 false visit.2.packet).out)

/-- What the labels of a run have to say about the session of a player. -/
inductive History (game : Game) (uid : UInt32) (initial : PlayerInfo) (log : List CallLabel) :
    Option PlayerSession → Prop
  | unopened (noInsertion : insertions uid log = []) (noPacket : handledBy uid log = []) :
      History game uid initial log none
  | opened (opener : CallId) (before after : List CallLabel)
      (split : log = before ++ ⟨opener, .inserted initial⟩ :: after)
      (fetched : lastFetched opener before = some initial)
      (once : insertions uid log = [(opener, initial)])
      (noEarlier : handledBy uid before = [])
      (replayed : handledBy uid log =
        (visits game uid initial (packetsOf uid log)).map (replied game uid)) :
      History game uid initial log
        (some ⟨(packetsOf uid log).foldl (afterPacket game uid) initial, false⟩)

/-- One more packet is met by the record that the others have made. -/
theorem visits_append (game : Game) (uid : UInt32) (player : PlayerInfo)
    (packets : List Incoming) (incoming : Incoming) :
    visits game uid player (packets ++ [incoming]) = visits game uid player packets ++
      [(packets.foldl (afterPacket game uid) player, incoming)] := by
  induction packets generalizing player with
  | nil => rfl
  | cons first packets inductionHypothesis =>
    simp only [List.cons_append, visits, inductionHypothesis, List.foldl_cons]

/-- One more label adds the session that it opens, if it opens one. -/
@[simp] theorem insertions_append (uid : UInt32) (log : List CallLabel) (label : CallLabel) :
    insertions uid (log ++ [label]) = insertions uid log ++ (label.insertion uid).toList := by
  cases same : label.insertion uid <;> simp [insertions, same]

/-- One more label adds the packet that it handles, if it handles one. -/
@[simp] theorem handled_by_append (uid : UInt32) (log : List CallLabel) (label : CallLabel) :
    handledBy uid (log ++ [label]) = handledBy uid log ++ (label.answered uid).toList := by
  cases same : label.answered uid <;> simp [handledBy, same]

/-- A step of another player, or one that only prepares, tells nothing. -/
theorem preparing_silent {uid : UInt32} {label : CallLabel}
    (preparing : label.id.uid = uid → label.effect.Preparing) :
    label.insertion uid = none ∧ label.answered uid = none := by
  obtain ⟨id, effect⟩ := label
  cases effect with
  | quiet => exact ⟨rfl, rfl⟩
  | fetched info => exact ⟨rfl, rfl⟩
  | notLoaded => exact ⟨rfl, rfl⟩
  | inserted info => exact ⟨if_neg preparing, rfl⟩
  | handled incoming out => exact ⟨rfl, if_neg preparing⟩

namespace History

variable {uid : UInt32} {initial : PlayerInfo} {log : List CallLabel}

/-- A label that tells nothing about the player keeps its history. Insertions and packets of the
player are all that the history is read from. -/
theorem silent {slot : Option PlayerSession} (history : History game uid initial log slot)
    (label : CallLabel) (noInsertion : label.insertion uid = none)
    (noPacket : label.answered uid = none) : History game uid initial (log ++ [label]) slot := by
  have sameInsertions : insertions uid (log ++ [label]) = insertions uid log := by
    simp [noInsertion]
  have sameHandled : handledBy uid (log ++ [label]) = handledBy uid log := by
    simp [noPacket]
  have samePackets : packetsOf uid (log ++ [label]) = packetsOf uid log := by
    rw [packetsOf, sameHandled, packetsOf]
  cases history with
  | unopened noInsertion noPacket =>
    exact .unopened (sameInsertions.trans noInsertion) (sameHandled.trans noPacket)
  | opened opener before after split fetched once noEarlier replayed =>
    rw [← samePackets]
    refine .opened opener before (after ++ [label]) ?_ fetched (sameInsertions.trans once)
      noEarlier ?_
    · rw [split, List.append_assoc, List.cons_append]
    · rw [sameHandled, samePackets]
      exact replayed

/-- The first insertion opens the history. Nothing of the player was inserted or handled before, so
the replay begins with an empty list of packets. -/
theorem insert (opener : CallId) (own : opener.uid = uid)
    (history : History game uid initial log none)
    (fetched : lastFetched opener log = some initial) :
    History game uid initial (log ++ [⟨opener, .inserted initial⟩])
      (some ⟨initial, false⟩) := by
  cases history with
  | unopened noInsertion noPacket =>
    have handled : handledBy uid (log ++ [⟨opener, .inserted initial⟩]) = [] := by
      rw [handled_by_append, noPacket]
      rfl
    have packets : packetsOf uid (log ++ [⟨opener, .inserted initial⟩]) = [] := by
      rw [packetsOf, handled]
      rfl
    have once : insertions uid (log ++ [⟨opener, .inserted initial⟩]) = [(opener, initial)] := by
      rw [insertions_append, noInsertion]
      simp [CallLabel.insertion, own]
    have replayed : handledBy uid (log ++ [⟨opener, .inserted initial⟩]) =
        (visits game uid initial (packetsOf uid (log ++ [⟨opener, .inserted initial⟩]))).map
          (replied game uid) := by
      rw [handled, packets]
      rfl
    have opened : History game uid initial (log ++ [⟨opener, .inserted initial⟩]) _ :=
      .opened opener log [] rfl fetched once noPacket replayed
    rw [packets] at opened
    exact opened

/-- A handled packet is replayed next. It is answered from the record that the earlier packets lead
to, with the clock of this moment. -/
theorem handle {info : PlayerInfo} {dirty : Bool} (id : CallId) (own : id.uid = uid)
    (now : Clock) (packet : Packet) (history : History game uid initial log (some ⟨info, dirty⟩)) :
    History game uid initial
      (log ++ [⟨id, .handled ⟨now, packet⟩ (handlePlayerPacket game uid now info dirty packet).out⟩])
      (some ⟨afterPacket game uid info ⟨now, packet⟩, false⟩) := by
  cases history with
  | opened opener before after split fetched once noEarlier replayed =>
    generalize reached : (packetsOf uid log).foldl (afterPacket game uid) initial = info
    generalize answer : (handlePlayerPacket game uid now info false packet).out = out
    have handled : handledBy uid (log ++ [⟨id, .handled ⟨now, packet⟩ out⟩]) =
        handledBy uid log ++ [(⟨now, packet⟩, out)] := by
      simp [CallLabel.answered, own]
    have packets : packetsOf uid (log ++ [⟨id, .handled ⟨now, packet⟩ out⟩]) =
        packetsOf uid log ++ [⟨now, packet⟩] := by
      rw [packetsOf, handled, List.map_append]
      rfl
    have final : (packetsOf uid (log ++ [⟨id, .handled ⟨now, packet⟩ out⟩])).foldl
        (afterPacket game uid) initial = afterPacket game uid info ⟨now, packet⟩ := by
      rw [packets, List.foldl_append, reached]
      rfl
    rw [← final]
    refine .opened opener before (after ++ [⟨id, .handled ⟨now, packet⟩ out⟩]) ?_ fetched ?_
      noEarlier ?_
    · rw [split, List.append_assoc, List.cons_append]
    · rw [insertions_append, once]
      rfl
    · rw [handled, packets, visits_append, List.map_append, reached, ← replayed, ← answer]
      rfl

end History

end CheshireLane
