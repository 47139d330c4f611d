import CheshireLane.Library.Splitter

/-!
# Serving items while the stream is read

A server handles each item as soon as it is split off and may stop the connection
while it does. Serving a stream is reading it and folding the handler over its items:
what the server did, what it sent and how the connection stands do not depend on the
reads, as far as the items do not.

A write that fails breaks a connection. What was done up to then is what a connection
without failing writes does, which is said here of any two handlers of this kind.
-/

namespace StreamSplitter

universe u v w x y
variable {σ : Type u} {π : Type v} {β : Type w} {ω : Type x} {τ : Type y}

/-- What handling an item leaves: the server, what it sent, and whether it goes on. -/
structure Turn (τ : Type y) (ω : Type x) where
  server : τ
  sent : List ω
  goesOn : Bool

/-- How a connection stands: it waits for more input, or a malformed item or the
handler ended it. -/
inductive Standing (σ : Type u) (β : Type w) where
  | waiting (state : σ) (buffer : List β)
  | malformed
  | stopped

/-- How a connection stands once all items it read are handled. -/
def Ending.standing : Ending σ β → Standing σ β
  | .pending state buffer => .waiting state buffer
  | .failed _ => .malformed

/-- A server with what it sent and how its connection stands. -/
structure Service (σ : Type u) (β : Type w) (ω : Type x) (τ : Type y) where
  server : τ
  sent : List ω
  standing : Standing σ β

/-- Put what was sent before in front. -/
def Service.after (sent : List ω) (service : Service σ β ω τ) : Service σ β ω τ :=
  { service with sent := sent ++ service.sent }

section loops

variable (splitter : Splitter σ π β) (handle : τ → π → Turn τ ω)

/-- Split and handle until no item is complete. Fuel counts the attempts. -/
def serveFuel : Nat → σ → τ → List β → Option (Service σ β ω τ)
  | 0, _, _, _ => none
  | fuel + 1, state, server, buffer =>
    match splitter.split state buffer with
    | .waiting rest => some ⟨server, [], .waiting state rest⟩
    | .rejected _ => some ⟨server, [], .malformed⟩
    | .yielded item next rest =>
      let turn := handle server item
      if turn.goesOn then (serveFuel fuel next turn.server rest).map (Service.after turn.sent)
      else some ⟨turn.server, turn.sent, .stopped⟩

/-- Handle items in order, until one stops the server. The bytes that were sent are joined, those of
the item that stopped it included. -/
def handleAll : τ → List π → Turn τ ω
  | server, [] => ⟨server, [], true⟩
  | server, item :: items =>
    let turn := handle server item
    if turn.goesOn then
      let later := handleAll turn.server items
      { later with sent := turn.sent ++ later.sent }
    else turn

/-- One item is handled, and the others if the server goes on. -/
theorem handle_all_cons (server : τ) (item : π) (items : List π) :
    handleAll handle server (item :: items) =
      let turn := handle server item
      if turn.goesOn then
        let later := handleAll handle turn.server items
        { later with sent := turn.sent ++ later.sent }
      else turn := rfl

/-- What a service comes to when the handler is folded over the items of a reader. -/
def conclude (server : τ) (result : List π × Ending σ β) : Service σ β ω τ :=
  let turn := handleAll handle server result.1
  ⟨turn.server, turn.sent,
    if turn.goesOn then result.2.standing else .stopped⟩

/-- One more item in front of a result is handled in front of its conclusion. -/
theorem conclude_prepend (server : τ) (item : π) (result : List π × Ending σ β) :
    conclude handle server (prepend item result) =
      let turn := handle server item
      if turn.goesOn then (conclude handle turn.server result).after turn.sent
      else ⟨turn.server, turn.sent, .stopped⟩ := by
  simp only [conclude, prepend, handle_all_cons]
  by_cases goesOn : (handle server item).goesOn
  · simp only [goesOn, ↓reduceIte, Service.after]
  · simp only [goesOn, Bool.false_eq_true, ↓reduceIte]

/-- The loop that serves is the loop that reads, with the handler folded over it. By induction on
the fuel, as each item takes at least a byte. An item on which the handler ends the service is the
last one in both. -/
theorem serve_fuel_eq (fuel : Nat) (state : σ) (server : τ) (buffer : List β)
    (enough : buffer.length < fuel) :
    serveFuel splitter handle fuel state server buffer =
      some (conclude handle server (drain splitter state buffer)) := by
  induction fuel generalizing state server buffer with
  | zero => omega
  | succ fuel inductionHypothesis =>
    rw [drain_eq]
    cases attempt : splitter.split state buffer with
    | waiting rest => simp [serveFuel, attempt, conclude, handleAll, Ending.standing]
    | rejected rest => simp [serveFuel, attempt, conclude, handleAll, Ending.standing]
    | yielded item next rest =>
      have shorter : rest.length < buffer.length := splitter.shrinks attempt
      have onward := fun server => inductionHypothesis next server rest (by omega)
      simp only [serveFuel, attempt, conclude_prepend, onward]
      split <;> rfl

/-- The completed loop over a buffer. -/
def serve (state : σ) (server : τ) (buffer : List β) : Service σ β ω τ :=
  (serveFuel splitter handle (buffer.length + 1) state server buffer).get (by
    rw [serve_fuel_eq splitter handle _ state server buffer (Nat.lt_succ_self _)]
    rfl)

/-- Serving a buffer is handling the items that are split off it. The splitting does not depend on
the handling. -/
theorem serve_eq (state : σ) (server : τ) (buffer : List β) :
    serve splitter handle state server buffer =
      conclude handle server (drain splitter state buffer) := by
  unfold serve
  simp only [serve_fuel_eq splitter handle _ state server buffer (Nat.lt_succ_self _),
    Option.get_some]

/-- The outer loop: append the next piece, then serve the buffer. What the buffer keeps waits for
the piece that comes next. -/
def serveLoop : σ → τ → List β → List (List β) → Service σ β ω τ
  | state, server, buffer, [] => ⟨server, [], .waiting state buffer⟩
  | state, server, buffer, chunk :: chunks =>
    let service := serve splitter handle state server (buffer ++ chunk)
    match service.standing with
    | .waiting state buffer =>
      (serveLoop state service.server buffer chunks).after service.sent
    | _ => service

/-- Two stretches of items are handled one after the other, if the first does not end the service.
By induction on the first stretch. -/
theorem handle_all_append (server : τ) (first second : List π) :
    handleAll handle server (first ++ second) =
      let turn := handleAll handle server first
      if turn.goesOn then
        let later := handleAll handle turn.server second
        { later with sent := turn.sent ++ later.sent }
      else turn := by
  induction first generalizing server with
  | nil => simp [handleAll]
  | cons item items inductionHypothesis =>
    rw [List.cons_append, handle_all_cons, handle_all_cons]
    by_cases goesOn : (handle server item).goesOn
    · simp only [goesOn, ↓reduceIte, inductionHypothesis]
      split
      · simp only [List.append_assoc]
      · rfl
    · simp [goesOn]

section breaking

variable (breaks : τ → π → Prop) (whole : τ → π → Turn τ ω)

/-- No item breaks the server, as far as the items are handled. -/
def Unbroken : τ → List π → Prop
  | _, [] => True
  | server, item :: items =>
    ¬ breaks server item ∧ ((whole server item).goesOn = true → Unbroken (whole server item).server items)

variable {breaks whole} {broken : τ → π → Turn τ ω}

/-- A handler that breaks at some items, and handles all others like a whole one, either never breaks,
or there is a first item at which it does. It has handled all items in front of that one like the
whole handler, and has sent their part in full; of the item itself it sent what it could.

Induct on the items: the whole handler goes on up to the first item that breaks. -/
theorem handle_all_broken
    (follows : ∀ server item, ¬ breaks server item → broken server item = whole server item)
    (stops : ∀ server item, breaks server item → (broken server item).goesOn = false)
    (server : τ) (items : List π) :
    (Unbroken breaks whole server items ∧ handleAll broken server items = handleAll whole server items) ∨
      ∃ front item behind, items = front ++ item :: behind ∧ Unbroken breaks whole server front ∧
        let reached := handleAll whole server front
        let turn := broken reached.server item
        reached.goesOn = true ∧ breaks reached.server item ∧
          handleAll broken server items = ⟨turn.server, reached.sent ++ turn.sent, false⟩ := by
  induction items generalizing server with
  | nil => exact .inl ⟨trivial, rfl⟩
  | cons item items inductionHypothesis =>
    by_cases breaksHere : breaks server item
    · refine .inr ⟨[], item, items, rfl, trivial, rfl, breaksHere, ?_⟩
      have stopped := stops server item breaksHere
      simp only [stopped, Bool.false_eq_true, ↓reduceIte, handleAll, List.nil_append]
      rw [← stopped]
    · have same := follows server item breaksHere
      cases goesOn : (whole server item).goesOn with
      | false =>
        refine .inl ⟨⟨breaksHere, fun onward => ?_⟩, ?_⟩
        · rw [goesOn] at onward
          cases onward
        · simp only [handle_all_cons, same, goesOn, Bool.false_eq_true, ↓reduceIte]
      | true =>
        rcases inductionHypothesis (whole server item).server with
          ⟨unbroken, alike⟩ | ⟨front, last, behind, rfl, unbroken, reached, breaksThere, ended⟩
        · refine .inl ⟨⟨breaksHere, fun _ => unbroken⟩, ?_⟩
          simp only [handle_all_cons, same, goesOn, ↓reduceIte, alike]
        · refine .inr ⟨item :: front, last, behind, rfl, ⟨breaksHere, fun _ => unbroken⟩, ?_⟩
          simp only [handle_all_cons, same, goesOn, ↓reduceIte, ended, List.append_assoc]
          exact ⟨reached, breaksThere, trivial⟩

end breaking

/-- Serving a stream in pieces is reading it in the same pieces and folding the handler
over all items.

Induct on the pieces. A reader that goes on behind the item that stopped the server
finds items that are not handled. -/
theorem serve_loop_eq (state : σ) (server : τ) (buffer : List β) (chunks : List (List β)) :
    serveLoop splitter handle state server buffer chunks =
      conclude handle server (readLoop splitter state buffer chunks) := by
  induction chunks generalizing state server buffer with
  | nil => simp [serveLoop, readLoop, conclude, handleAll, Ending.standing]
  | cons chunk chunks inductionHypothesis =>
    rw [serveLoop, serve_eq, readLoop]
    rcases drain splitter state (buffer ++ chunk) with ⟨items, ending⟩
    cases ending with
    | failed rest =>
      simp only [conclude, Ending.standing]
      split
      · next standing => split at standing <;> cases standing
      · rfl
    | pending next rest =>
      simp only [conclude, handle_all_append, Ending.standing]
      by_cases goesOn : (handleAll handle server items).goesOn
      · simp only [goesOn, ↓reduceIte, inductionHypothesis, Service.after, conclude]
        rfl
      · simp [goesOn]

end loops

/-- The pieces in which a clear stream is read make no difference to its server. -/
theorem serve_loop_whole {splitter : Splitter σ π β} {trap : σ → List β → Prop}
    (reliable : Reliable splitter trap) (handle : τ → π → Turn τ ω) (state : σ) (server : τ)
    (stream : List β) (chunks : List (List β)) (cut : chunks.flatten = stream)
    (idle : drain splitter state [] = ([], .pending state []))
    (clear : Clear splitter trap state stream) :
    serveLoop splitter handle state server [] chunks =
      conclude handle server (drain splitter state stream) := by
  rw [serve_loop_eq, read_loop_whole reliable state [] chunks idle (by rwa [List.nil_append, cut]),
    List.nil_append, cut]

end StreamSplitter
