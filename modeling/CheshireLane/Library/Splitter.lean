import Mathlib.Data.List.Basic

/-!
# Splitting a stream that arrives in pieces

A reader appends each piece it receives to a buffer and takes items off the
front until the next item is incomplete or malformed. Whether the items depend
on where the stream was cut is a property of one attempt: a decision taken on a
prefix must survive every extension of that prefix. `Reliable` states this
outside a set of trapped positions; `read_loop_whole` concludes that a stream
whose item boundaries avoid the traps is read alike under every cut.

An attempt may discard elements and still wait. `resumes` says that such a
discard is harmless: the longer buffer decides as its remainder does.
-/

namespace StreamSplitter

universe u v w x
variable {σ : Type u} {π : Type v} {β : Type w} {ω : Type x}

/-- The outcome of one attempt. Every constructor carries the new buffer. -/
inductive Verdict (σ : Type u) (π : Type v) (β : Type w) where
  | waiting (rest : List β)
  | yielded (item : π) (next : σ) (rest : List β)
  | rejected (rest : List β)

/-- A splitting function together with its progress measure: a taken item
leaves a strictly shorter buffer. -/
structure Splitter (σ : Type u) (π : Type v) (β : Type w) where
  split : σ → List β → Verdict σ π β
  shrinks : ∀ {state buffer item next rest},
    split state buffer = .yielded item next rest → rest.length < buffer.length

/-- How a reader stops: it waits for more input, or it gave up on a malformed
item and leaves the elements it has not consumed. -/
inductive Ending (σ : Type u) (β : Type w) where
  | pending (state : σ) (buffer : List β)
  | failed (unread : List β)

/-- Put an item in front of a result. -/
def prepend (item : π) (result : List π × Ending σ β) : List π × Ending σ β :=
  (item :: result.1, result.2)

/-- Attempts until one takes no item. Fuel counts the attempts, so `none` means
that the loop was cut short. -/
def drainFuel (splitter : Splitter σ π β) : Nat → σ → List β → Option (List π × Ending σ β)
  | 0, _, _ => none
  | fuel + 1, state, buffer =>
    match splitter.split state buffer with
    | .waiting rest => some ([], .pending state rest)
    | .rejected rest => some ([], .failed rest)
    | .yielded item next rest => (drainFuel splitter fuel next rest).map (prepend item)

/-- One attempt more than the buffer has elements completes the loop.

Every further attempt follows a taken item, whose removal shortened the buffer. -/
theorem drain_fuel_completes (splitter : Splitter σ π β) (fuel : Nat) (state : σ)
    (buffer : List β) (enough : buffer.length < fuel) :
    ∃ result, drainFuel splitter fuel state buffer = some result := by
  induction fuel generalizing state buffer with
  | zero => omega
  | succ fuel inductionHypothesis =>
    cases attempt : splitter.split state buffer with
    | waiting rest => exact ⟨_, by simp [drainFuel, attempt]; rfl⟩
    | rejected rest => exact ⟨_, by simp [drainFuel, attempt]; rfl⟩
    | yielded item next rest =>
      have shorter : rest.length < buffer.length := splitter.shrinks attempt
      obtain ⟨result, completed⟩ := inductionHypothesis next rest (by omega)
      exact ⟨prepend item result, by simp [drainFuel, attempt, completed]⟩

/-- A completed loop is unaffected by more fuel. -/
theorem drain_fuel_stable (splitter : Splitter σ π β) (fuel extra : Nat) (state : σ)
    (buffer : List β) (result : List π × Ending σ β)
    (completed : drainFuel splitter fuel state buffer = some result) :
    drainFuel splitter (fuel + extra) state buffer = some result := by
  induction fuel generalizing state buffer result with
  | zero => simp [drainFuel] at completed
  | succ fuel inductionHypothesis =>
    rw [Nat.add_right_comm]
    cases attempt : splitter.split state buffer with
    | waiting rest => simpa [drainFuel, attempt] using completed
    | rejected rest => simpa [drainFuel, attempt] using completed
    | yielded item next rest =>
      simp only [drainFuel, attempt, Option.map_eq_some_iff] at completed ⊢
      obtain ⟨later, ended, same⟩ := completed
      exact ⟨later, inductionHypothesis next rest later ended, same⟩

/-- The completed loop over a buffer. -/
def drain (splitter : Splitter σ π β) (state : σ) (buffer : List β) : List π × Ending σ β :=
  (drainFuel splitter (buffer.length + 1) state buffer).get (by
    obtain ⟨result, completed⟩ :=
      drain_fuel_completes splitter (buffer.length + 1) state buffer (by omega)
    simp [completed])

/-- Any fuel above the buffer's length gives the completed loop. -/
theorem drain_of_fuel (splitter : Splitter σ π β) (fuel : Nat) (state : σ) (buffer : List β)
    (enough : buffer.length < fuel) :
    drainFuel splitter fuel state buffer = some (drain splitter state buffer) := by
  have own : drainFuel splitter (buffer.length + 1) state buffer =
      some (drain splitter state buffer) := (Option.some_get _).symm
  have more := drain_fuel_stable splitter _ (fuel - (buffer.length + 1)) state buffer _ own
  rwa [show buffer.length + 1 + (fuel - (buffer.length + 1)) = fuel by omega] at more

/-- One unfolding of the completed loop. -/
theorem drain_eq (splitter : Splitter σ π β) (state : σ) (buffer : List β) :
    drain splitter state buffer = match splitter.split state buffer with
      | .waiting rest => ([], .pending state rest)
      | .rejected rest => ([], .failed rest)
      | .yielded item next rest => prepend item (drain splitter next rest) := by
  have unfolded := drain_of_fuel splitter (buffer.length + 1) state buffer (by omega)
  cases attempt : splitter.split state buffer with
  | waiting rest => simpa [drainFuel, attempt] using unfolded.symm
  | rejected rest => simpa [drainFuel, attempt] using unfolded.symm
  | yielded item next rest =>
    have shorter : rest.length < buffer.length := splitter.shrinks attempt
    have tail := drain_of_fuel splitter buffer.length next rest shorter
    simpa [drainFuel, attempt, tail] using unfolded.symm

/-- The reader's outer loop: append the next piece, then drain the buffer. A
malformed item ends it, so the remaining pieces stay unread. -/
def readLoop (splitter : Splitter σ π β) : σ → List β → List (List β) → List π × Ending σ β
  | state, buffer, [] => ([], .pending state buffer)
  | state, buffer, chunk :: chunks =>
    match drain splitter state (buffer ++ chunk) with
    | (items, .pending next rest) =>
      let later := readLoop splitter next rest chunks
      (items ++ later.1, later.2)
    | (items, .failed rest) => (items, .failed (rest ++ chunks.flatten))

/-- The elements the reader has not consumed. -/
def Ending.unread : Ending σ β → List β
  | .pending _ buffer => buffer
  | .failed rest => rest

/-- Whether the reader gave up on a malformed item. -/
def Ending.hasFailed : Ending σ β → Bool
  | .pending _ _ => false
  | .failed _ => true

/-- What an observer of the items sees of a finished reader. -/
def outcome (observe : π → ω) (result : List π × Ending σ β) : List ω × Bool × List β :=
  (result.1.map observe, result.2.hasFailed, result.2.unread)

/-- A way of cutting a stream into reads, none of which is empty. -/
def Cut (stream : List β) (chunks : List (List β)) : Prop :=
  chunks.flatten = stream ∧ ∀ chunk ∈ chunks, chunk ≠ []

/-- The positions at which the loop over a whole stream attempts an item. -/
inductive Boundary (splitter : Splitter σ π β) : σ → List β → σ → List β → Prop
  | here (state : σ) (stream : List β) : Boundary splitter state stream state stream
  | later {state : σ} {stream : List β} {item : π} {next : σ} {rest : List β} {last : σ}
      {remaining : List β} (taken : splitter.split state stream = .yielded item next rest)
      (onward : Boundary splitter next rest last remaining) :
      Boundary splitter state stream last remaining

/-- No boundary of the stream is trapped. -/
def Clear (splitter : Splitter σ π β) (trap : σ → List β → Prop) (state : σ)
    (stream : List β) : Prop :=
  ∀ last remaining, Boundary splitter state stream last remaining → ¬ trap last remaining

/-- Outside `trap`, a decision on a prefix is the decision on the stream; and a
waiting attempt may be repeated on what it left. -/
structure Reliable (splitter : Splitter σ π β) (trap : σ → List β → Prop) : Prop where
  yielded : ∀ {state buffer item next rest} (more : List β), ¬ trap state (buffer ++ more) →
    splitter.split state buffer = .yielded item next rest →
    splitter.split state (buffer ++ more) = .yielded item next (rest ++ more)
  rejected : ∀ {state buffer rest} (more : List β), ¬ trap state (buffer ++ more) →
    splitter.split state buffer = .rejected rest →
    splitter.split state (buffer ++ more) = .rejected (rest ++ more)
  resumes : ∀ {state buffer rest} (more : List β),
    splitter.split state buffer = .waiting rest →
    splitter.split state (buffer ++ more) = splitter.split state (rest ++ more)
  trapResumes : ∀ {state buffer rest} (more : List β),
    splitter.split state buffer = .waiting rest → trap state (rest ++ more) →
    trap state (buffer ++ more)

section Reliability

variable {splitter : Splitter σ π β} {trap : σ → List β → Prop}

/-- The boundaries behind a taken item are boundaries of the stream. -/
theorem clear_yielded {state next : σ} {stream rest : List β} {item : π}
    (clear : Clear splitter trap state stream)
    (taken : splitter.split state stream = .yielded item next rest) :
    Clear splitter trap next rest :=
  fun last remaining reached => clear last remaining (.later taken reached)

/-- A waiting attempt changes no boundary but its own, which stays untrapped. -/
theorem clear_resumes (reliable : Reliable splitter trap) {state : σ} {buffer rest : List β}
    (more : List β) (waited : splitter.split state buffer = .waiting rest)
    (clear : Clear splitter trap state (buffer ++ more)) :
    Clear splitter trap state (rest ++ more) := by
  intro last remaining reached trapped
  cases reached with
  | here => exact clear _ _ (.here _ _) (reliable.trapResumes more waited trapped)
  | later taken onward =>
    rw [← reliable.resumes more waited] at taken
    exact clear last remaining (.later taken onward) trapped

/-- Continue a finished loop over a prefix with the rest of the stream. -/
def continueWith (splitter : Splitter σ π β) (more : List β) :
    List π × Ending σ β → List π × Ending σ β
  | (items, .pending next rest) =>
    let later := drain splitter next (rest ++ more)
    (items ++ later.1, later.2)
  | (items, .failed rest) => (items, .failed (rest ++ more))

/-- Draining a prefix first changes nothing on a clear stream.

Induct on the prefix length. A taken item is also the whole stream's next item,
and the boundaries behind it are clear again; a waiting attempt resumes on what
it left; a rejection is final. -/
theorem drain_append (reliable : Reliable splitter trap) (state : σ) (buffer more : List β)
    (clear : Clear splitter trap state (buffer ++ more)) :
    drain splitter state (buffer ++ more) =
      continueWith splitter more (drain splitter state buffer) := by
  induction size : buffer.length using Nat.strongRecOn generalizing state buffer with
  | ind size inductionHypothesis =>
    have untrapped : ¬ trap state (buffer ++ more) := clear _ _ (.here _ _)
    rw [drain_eq splitter state buffer]
    cases attempt : splitter.split state buffer with
    | waiting rest =>
      simp only [continueWith, List.nil_append]
      rw [drain_eq splitter state (buffer ++ more), drain_eq splitter state (rest ++ more),
        reliable.resumes more attempt]
    | rejected rest =>
      rw [drain_eq, reliable.rejected more untrapped attempt]
      rfl
    | yielded item next rest =>
      have taken := reliable.yielded more untrapped attempt
      have shorter : rest.length < buffer.length := splitter.shrinks attempt
      have onward := inductionHypothesis rest.length (size ▸ shorter) next rest
        (clear_yielded clear taken) rfl
      rw [drain_eq, taken]
      simp only [onward]
      rcases drain splitter next rest with ⟨items, ending⟩
      cases ending <;> rfl

/-- A loop that did not fail ended at a boundary, where its last attempt waited. By induction on the
bytes that are left: each item moves the boundary forward. -/
theorem drained_waiting (state last : σ) (buffer rest : List β) (items : List π)
    (drained : drain splitter state buffer = (items, .pending last rest)) :
    ∃ remaining, Boundary splitter state buffer last remaining ∧
      splitter.split last remaining = .waiting rest := by
  induction size : buffer.length using Nat.strongRecOn generalizing state buffer items with
  | ind size inductionHypothesis =>
    rw [drain_eq] at drained
    cases attempt : splitter.split state buffer with
    | waiting left =>
      simp only [attempt, Prod.mk.injEq, Ending.pending.injEq] at drained
      obtain ⟨_, rfl, rfl⟩ := drained
      exact ⟨buffer, .here state buffer, attempt⟩
    | rejected left => simp [attempt] at drained
    | yielded item next left =>
      have shorter : left.length < buffer.length := splitter.shrinks attempt
      simp only [attempt, prepend, Prod.mk.injEq] at drained
      obtain ⟨remaining, reached, waited⟩ := inductionHypothesis left.length (size ▸ shorter) next
        left (drain splitter next left).1 (Prod.ext rfl drained.2) rfl
      exact ⟨remaining, .later attempt reached, waited⟩

/-- A drained buffer holds no further item: draining what is left returns it. -/
theorem drain_settled (reliable : Reliable splitter trap) (state last : σ)
    (buffer rest : List β) (items : List π)
    (drained : drain splitter state buffer = (items, .pending last rest)) :
    drain splitter last rest = ([], .pending last rest) := by
  obtain ⟨remaining, _, waited⟩ := drained_waiting state last buffer rest items drained
  have again := reliable.resumes [] waited
  simp only [List.append_nil, waited] at again
  rw [drain_eq, ← again]

/-- The boundaries of a prefix are boundaries of the clear stream. -/
theorem clear_boundary (reliable : Reliable splitter trap) {state last : σ}
    {buffer remaining : List β} (more : List β)
    (reached : Boundary splitter state buffer last remaining)
    (clear : Clear splitter trap state (buffer ++ more)) :
    Clear splitter trap last (remaining ++ more) := by
  induction reached with
  | here state buffer => exact clear
  | later taken onward inductionHypothesis =>
    have untrapped : ¬ trap _ _ := clear _ _ (.here _ _)
    exact inductionHypothesis (clear_yielded clear (reliable.yielded more untrapped taken))

/-- The state a finished loop leaves for the next read is clear again. -/
theorem clear_drained (reliable : Reliable splitter trap) (state last : σ)
    (buffer rest more : List β) (items : List π)
    (clear : Clear splitter trap state (buffer ++ more))
    (drained : drain splitter state buffer = (items, .pending last rest)) :
    Clear splitter trap last (rest ++ more) := by
  obtain ⟨remaining, reached, waited⟩ := drained_waiting state last buffer rest items drained
  exact clear_resumes reliable more waited (clear_boundary reliable more reached clear)

/-- Reading a clear stream in pieces is draining it whole.

Induct on the pieces. Draining the first one and continuing with the others is
draining their concatenation; what it leaves is settled and clear. -/
theorem read_loop_whole (reliable : Reliable splitter trap) (state : σ) (buffer : List β)
    (chunks : List (List β)) (settled : drain splitter state buffer = ([], .pending state buffer))
    (clear : Clear splitter trap state (buffer ++ chunks.flatten)) :
    readLoop splitter state buffer chunks = drain splitter state (buffer ++ chunks.flatten) := by
  induction chunks generalizing state buffer with
  | nil => simp only [readLoop, List.flatten_nil, List.append_nil, settled]
  | cons chunk chunks inductionHypothesis =>
    rw [List.flatten_cons, ← List.append_assoc] at clear ⊢
    rw [drain_append reliable state (buffer ++ chunk) chunks.flatten clear, readLoop]
    rcases drained : drain splitter state (buffer ++ chunk) with ⟨items, ending⟩
    cases ending with
    | failed rest => rfl
    | pending next rest =>
      have onward := inductionHypothesis next rest
        (drain_settled reliable state next _ rest items drained)
        (clear_drained reliable state next _ rest _ items clear drained)
      simp only [continueWith, onward]

end Reliability

/-- A read that is exactly the next item is consumed before the following ones. -/
theorem read_loop_item (splitter : Splitter σ π β) (state next : σ) (front : List β) (item : π)
    (chunks : List (List β)) (taken : splitter.split state front = .yielded item next [])
    (idle : drain splitter next [] = ([], .pending next [])) :
    readLoop splitter state [] (front :: chunks) =
      prepend item (readLoop splitter next [] chunks) := by
  have drained : drain splitter state front = ([item], .pending next []) := by
    rw [drain_eq, taken]
    simp only [idle, prepend]
  rw [readLoop, List.nil_append, drained]
  rfl

/-- The first attempt of the first read fixes the first item. -/
theorem read_loop_first (splitter : Splitter σ π β) (state next : σ) (chunk rest : List β)
    (item : π) (chunks : List (List β))
    (taken : splitter.split state chunk = .yielded item next rest) :
    ∃ later, (readLoop splitter state [] (chunk :: chunks)).1 = item :: later := by
  have drained : drain splitter state chunk = prepend item (drain splitter next rest) := by
    rw [drain_eq, taken]
  rw [readLoop, List.nil_append, drained]
  rcases drain splitter next rest with ⟨items, last | left⟩
  · exact ⟨_, List.cons_append⟩
  · exact ⟨items, rfl⟩

/-- A first read that starts with a malformed item ends the reader. -/
theorem read_loop_rejected (splitter : Splitter σ π β) (state : σ) (chunk rest : List β)
    (chunks : List (List β)) (malformed : splitter.split state chunk = .rejected rest) :
    readLoop splitter state [] (chunk :: chunks) = ([], .failed (rest ++ chunks.flatten)) := by
  rw [readLoop, List.nil_append, drain_eq, malformed]

/-- A single read without a complete item leaves the reader waiting. -/
theorem read_loop_waiting (splitter : Splitter σ π β) (state : σ) (chunk rest : List β)
    (waited : splitter.split state chunk = .waiting rest) :
    readLoop splitter state [] [chunk] = ([], .pending state rest) := by
  rw [readLoop, List.nil_append, drain_eq, waited]
  rfl

/-- If every taken item can be read on its own, and a trapped position can be
read in two ways that an observer tells apart, then so can every stream that
reaches one.

Induct on the boundary. The items in front of it are read one by one in both
cuts, and prepending the same item keeps the outcomes apart. -/
theorem trap_separates {splitter : Splitter σ π β} {trap : σ → List β → Prop} (observe : π → ω)
    (alone : ∀ {state stream item next rest}, splitter.split state stream = .yielded item next rest →
      ∃ front, front ≠ [] ∧ stream = front ++ rest ∧
        splitter.split state front = .yielded item next [])
    (idle : ∀ state, drain splitter state [] = ([], .pending state []))
    (exposed : ∀ state stream, trap state stream → ∃ left right, Cut stream left ∧ Cut stream right ∧
      outcome observe (readLoop splitter state [] left) ≠
        outcome observe (readLoop splitter state [] right))
    {state last : σ} {stream remaining : List β}
    (reached : Boundary splitter state stream last remaining) (trapped : trap last remaining) :
    ∃ left right, Cut stream left ∧ Cut stream right ∧
      outcome observe (readLoop splitter state [] left) ≠
        outcome observe (readLoop splitter state [] right) := by
  induction reached with
  | here state stream => exact exposed state stream trapped
  | @later state stream item next rest last remaining taken onward inductionHypothesis =>
    obtain ⟨left, right, leftCut, rightCut, apart⟩ := inductionHypothesis trapped
    obtain ⟨front, nonempty, rfl, only⟩ := alone taken
    have extend : ∀ chunks, Cut rest chunks → Cut (front ++ rest) (front :: chunks) := by
      rintro chunks ⟨joined, filled⟩
      refine ⟨by rw [List.flatten_cons, joined], ?_⟩
      intro chunk member
      rcases List.mem_cons.mp member with rfl | member
      · exact nonempty
      · exact filled chunk member
    refine ⟨front :: left, front :: right, extend left leftCut, extend right rightCut, ?_⟩
    rw [read_loop_item splitter _ _ front _ left only (idle _),
      read_loop_item splitter _ _ front _ right only (idle _)]
    intro same
    apply apart
    simp only [outcome, prepend, List.map_cons, Prod.mk.injEq, List.cons.injEq, true_and] at same
    simp only [outcome, Prod.mk.injEq]
    exact same

/-- A prefix of a clear stream holds a prefix of its items. -/
theorem drain_front {splitter : Splitter σ π β} {trap : σ → List β → Prop}
    (reliable : Reliable splitter trap) (state : σ) (front stream : List β) (early : front <+: stream)
    (clear : Clear splitter trap state stream) :
    (drain splitter state front).1 <+: (drain splitter state stream).1 := by
  obtain ⟨more, rfl⟩ := early
  rw [drain_append reliable state front more clear]
  rcases drain splitter state front with ⟨items, last | rest⟩
  · exact List.prefix_append _ _
  · exact List.prefix_refl _

end StreamSplitter
