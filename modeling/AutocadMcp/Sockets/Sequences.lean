import AutocadMcp.Lib.Outputs
import AutocadMcp.Sockets.Revocation

/-!
# The order of what is taken

A connection takes messages in the order of their sequence numbers, each once, from the last one
that its hello names. It only remembers the last 256, and decides as if it remembered all.
-/

namespace AutocadMcp.Sockets

open Identity ReplayWindow

/-- The number and the content of the message that the socket takes at this event. -/
def takenBy (socket : Nat) (g : Server) (e : Event) : List (Nat × String) :=
  match taken g e with
  | some (row, m) => if row.socket = socket then [(m.sequence, m.fingerprint)] else []
  | none => []

section

variable {S : Setup} {g g' : Server} {e : Event} {db : Db} {registry registry' : Registry}
  {row : Socket} {a : Action} {stage : Stage} {socket start : Nat} {log : List (Nat × String)}

/-- The window of the connection covers the log, once there is a connection. -/
def Stage.covers (start : Nat) (log : List (Nat × String)) : Stage → Prop
  | .greeting _ => False
  | .connected _ c => Covers recentSequenceLimit start log c.window
  | .closed => log.Pairwise (fun a b => a.1 < b.1) ∧ ∀ m ∈ log, start < m.1

theorem Stage.covers.sorted (h : stage.covers start log) :
    log.Pairwise (fun a b => a.1 < b.1) ∧ ∀ m ∈ log, start < m.1 := by
  cases stage with
  | greeting token => exact h.elim
  | connected p c => exact ⟨h.increasing, h.above⟩
  | closed => exact h

/-- What an event of another socket, or no judgement, takes. -/
theorem takenBy_eq_nil
    (h : ∀ row m c, g.sockets.get? socket = some row → row.stage = .connected (.received m) c →
      g.registry.isCurrent row c = true → e ≠ .socket socket .acceptSequence) :
    takenBy socket g e = [] := by
  unfold takenBy
  split
  · next row m htaken =>
      apply if_neg
      rintro rfl
      obtain ⟨c, he, hrow, hstage, hcurrent, -⟩ := taken_some htaken
      exact h row m c hrow hstage hcurrent he
  · rfl

/-- A judgement of the current connection takes the message that it accepts. -/
theorem takenBy_judged {m : Message} {c : Connection} (hrow : g.sockets.get? socket = some row)
    (hstage : row.stage = .connected (.received m) c) (hcurrent : g.registry.isCurrent row c = true) :
    takenBy socket g (.socket socket .acceptSequence) =
      if c.judge m = .accepted then [(m.sequence, m.fingerprint)] else [] := by
  have hsocket := (Table.get?_some hrow).2
  have htaken : taken g (.socket socket .acceptSequence) =
      if c.judge m = .accepted then some (row, m) else none := by
    unfold taken
    dsimp only
    rw [hrow]
    dsimp only
    rw [hstage]
    simp [hcurrent]
  unfold takenBy
  rw [htaken]
  by_cases haccepted : c.judge m = .accepted
  · rw [if_pos haccepted, if_pos haccepted]
    exact if_pos hsocket
  · rw [if_neg haccepted, if_neg haccepted]

/-- The move of a socket keeps its window over the log. -/
theorem Moved.covers (h : Moved S g.db g.registry row a stage registry')
    (hrow : g.sockets.get? socket = some row) (hcovers : row.stage.covers start log) :
    stage.covers start (log ++ takenBy socket g (.socket socket a)) := by
  have hquiet : (∀ m c, row.stage = .connected (.received m) c →
      g.registry.isCurrent row c = true → a ≠ .acceptSequence) →
      log ++ takenBy socket g (.socket socket a) = log := by
    intro hnot
    rw [takenBy_eq_nil, List.append_nil]
    rintro row' m c hrow' hstage hcurrent ⟨⟩
    cases hrow.symm.trans hrow'
    exact hnot m c hstage hcurrent rfl
  have hsorted := hcovers.sorted
  cases h with
  | greeted hstage =>
      rw [hstage] at hcovers
      exact hcovers.elim
  | closed hstage =>
      rw [hstage] at hcovers
      exact hcovers.elim
  | @judged c m hstage hcurrent =>
      rw [hstage] at hcovers
      have hnext : Covers recentSequenceLimit start
          (if c.judge m = .accepted then log ++ [(m.sequence, m.fingerprint)] else log)
          (c.recorded m).window := Covers.record hcovers m.sequence m.fingerprint
      change Covers recentSequenceLimit start _ (c.recorded m).window
      rw [takenBy_judged hrow hstage hcurrent]
      by_cases haccepted : c.judge m = .accepted
      · rw [if_pos haccepted]
        rwa [if_pos haccepted] at hnext
      · rw [if_neg haccepted, List.append_nil]
        rwa [if_neg haccepted] at hnext
  | replaced hstage hcurrent =>
      rw [hquiet fun m c hstage' hcurrent' => by
        rw [hstage] at hstage'
        cases hstage'
        rw [hcurrent] at hcurrent'
        cases hcurrent']
      rwa [hstage] at hcovers
  | failed hstage =>
      rw [hquiet fun _ _ _ _ => nofun]
      rwa [hstage] at hcovers
  | left hstage =>
      rw [hquiet fun _ _ _ _ => nofun]
      exact hsorted
  | idle hidle =>
      rw [hquiet fun m c hstage' _ => hidle m c hstage']
      exact hcovers
  | registered hstage | checked hstage | unchecked hstage | activated hstage | declined hstage
  | arrived hstage | marked hstage | dismissed hstage =>
      rw [hquiet fun _ _ _ _ => nofun]
      rwa [hstage] at hcovers

/-- The socket is there, and its window covers the log. -/
def Follows (socket start : Nat) (log : List (Nat × String)) (g : Server) : Prop :=
  ∃ row, g.sockets.get? socket = some row ∧ row.stage.covers start log

theorem Stepped.follows (h : Stepped S g e g') (he : e ≠ .restart) (hlog : Follows socket start log g) :
    Follows socket start (log ++ takenBy socket g e) g' := by
  obtain ⟨row, hrow, hcovers⟩ := hlog
  have hquiet : e ≠ .socket socket .acceptSequence → log ++ takenBy socket g e = log := by
    intro he
    rw [takenBy_eq_nil fun _ _ _ _ _ _ => he, List.append_nil]
  cases h with
  | idle hnone habsent =>
      rw [hquiet]
      · exact ⟨row, hrow, hcovers⟩
      · rintro rfl
        rw [habsent socket _ rfl] at hrow
        cases hrow
  | called hsome =>
      rw [hquiet]
      · exact ⟨row, hrow, hcovers⟩
      · rintro rfl
        cases hsome
  | opened hconsumed hinsert =>
      rw [hquiet nofun]
      exact ⟨row, Table.get?_insert_of_some hinsert hrow, hcovers⟩
  | @moved other row' a stage registry' hrow' hmoved =>
      by_cases hsame : other = socket
      · subst hsame
        cases hrow.symm.trans hrow'
        refine ⟨row.at stage, ?_, hmoved.covers hrow hcovers⟩
        show (g.sockets.modify other (Socket.at stage) (Socket.at_socket stage)).get? other = _
        rw [Table.get?_modify, if_pos rfl, hrow]
        rfl
      · rw [hquiet]
        · refine ⟨row, ?_, hcovers⟩
          show (g.sockets.modify other (Socket.at stage) (Socket.at_socket stage)).get? socket = _
          rw [Table.get?_modify, if_neg fun heq => hsame heq.symm, hrow]
        · rintro ⟨⟩
          exact hsame rfl
  | revoked hrevoked hinsert =>
      rw [hquiet nofun]
      exact ⟨row, hrow, hcovers⟩
  | lookedUp htask hstage =>
      rw [hquiet nofun]
      exact ⟨row, hrow, hcovers⟩
  | dropped htask hstage =>
      rw [hquiet nofun]
      exact ⟨row, hrow, hcovers⟩
  | restarted => exact absurd rfl he

end

/-! ## Runs -/

/-- The messages that the socket takes in a run, by their number and content. -/
def takenIn (S : Setup) (socket : Nat) : Server → List Event → List (Nat × String) :=
  outputs (step S) (takenBy socket)

/-- **A connection takes its messages in order, each once.** After a hello that is accepted, and
until the process ends, the numbers of the messages that the socket takes increase from the last
one that the hello names, and the decision about a message is the one that the whole list of what
was taken gives: a repetition of one of the last 256 is a duplicate where it is exact, and every
other number that is not above all is rejected. -/
theorem taken_in_order (S : Setup) (pre post : List Event) (row : Socket) (token : String)
    (hello : Hello) (sessionId : String)
    (hrow : (run S pre).sockets.get? row.socket = some row) (hstage : row.stage = .greeting token)
    (hgreets : greets S (run S pre).db row.deviceId token hello = true)
    (hpost : ∀ e ∈ post, e ≠ .restart) :
    let opened := run S (pre ++ [.socket row.socket (.hello hello sessionId)])
    let log := takenIn S row.socket opened post
    log.Pairwise (fun a b => a.1 < b.1) ∧ (∀ m ∈ log, hello.lastProcessedSequence < m.1) ∧
      ∀ row' m c, (runFrom (step S) opened post).sockets.get? row.socket = some row' →
        row'.stage = .connected (.received m) c →
        c.judge m =
          judge recentSequenceLimit hello.lastProcessedSequence log m.sequence m.fingerprint := by
  intro opened log
  have hopened : Follows row.socket hello.lastProcessedSequence [] opened := by
    refine ⟨row.at (.connected .verified (connectionOf hello sessionId)), ?_, covers_nil⟩
    show (run S (pre ++ [_])).sockets.get? row.socket = _
    unfold run at hrow hgreets ⊢
    rw [runFrom_append, runFrom_cons, runFrom_nil]
    generalize runFrom (step S) Server.initial pre = g at hrow hgreets ⊢
    have hserve : serve S g.db g.registry row (.hello hello sessionId) =
        (.connected .verified (connectionOf hello sessionId), g.registry) := by
      unfold serve
      rw [hstage]
      exact if_pos hgreets
    unfold step
    dsimp only
    rw [hrow]
    dsimp only
    rw [Table.get?_modify, if_pos rfl, hrow, hserve]
    rfl
  have halong : Along (step S) (fun _ e => e ≠ .restart) opened post := by
    rw [along_iff]
    rintro _ e _ rfl
    exact hpost e (by simp)
  have hfollows : Follows row.socket hello.lastProcessedSequence log
      (runFrom (step S) opened post) := by
    have hrun := outputs_invariant (Follows row.socket hello.lastProcessedSequence)
      (fun log g e hlog he => (step_cases S g e).follows he hlog) hopened halong
    exact hrun
  obtain ⟨last, hlast, hcovers⟩ := hfollows
  refine ⟨hcovers.sorted.1, hcovers.sorted.2, ?_⟩
  intro row' m c hrow' hreceived
  cases hlast.symm.trans hrow'
  rw [hreceived] at hcovers
  exact Covers.record_eq_judge hcovers m.sequence m.fingerprint

/-- The report is taken, and arrives again. -/
def sampleReplay : List Event :=
  sampleArrival ++ [.socket 1 .acceptSequence, .socket 1 (.receive sampleReport true)]

theorem taken_in_order_sample :
    let opened := run sampleSetup (sampleOpening ++ [.socket 1 (.hello sampleHello "session-1")])
    let log := takenIn sampleSetup 1 opened sampleReplay
    log.Pairwise (fun a b => a.1 < b.1) ∧ (∀ m ∈ log, sampleHello.lastProcessedSequence < m.1) ∧
      ∀ row' m c, (runFrom (step sampleSetup) opened sampleReplay).sockets.get? 1 = some row' →
        row'.stage = .connected (.received m) c →
        c.judge m =
          judge recentSequenceLimit sampleHello.lastProcessedSequence log m.sequence m.fingerprint :=
  taken_in_order sampleSetup sampleOpening sampleReplay ⟨1, "d", .greeting "t1"⟩ "t1" sampleHello
    "session-1" (by decide +kernel) rfl (by decide +kernel) (by simp [sampleReplay, sampleArrival])

end AutocadMcp.Sockets
