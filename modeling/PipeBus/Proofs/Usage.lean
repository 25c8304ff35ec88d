import PipeBus.Proofs.Lane
import PipeBus.Proofs.Operations

/-! A pipe in the hands of one who writes through it, write by write, and closes it in the end.
Whatever is on its way and whenever it arrives, the pieces delivered are a prefix of those
written, and all of them once the pipe is closed. -/

namespace PipeBus

variable {ε κ : Type}

/-- What a writer is doing with its pipe. -/
inductive Usage where
  | idle (pipe : OutputPipe)
  /-- A write through the pipe, or its close, is under way. -/
  | busy (closing : Bool) (call : Call (Except NodeError Unit × OutputPipe))
  | closed

instance (usage : Usage) : Decidable (usage = .closed) :=
  match usage with
  | .idle _ | .busy _ _ => isFalse nofun
  | .closed => isTrue rfl

/-- What a writer does after a call has ended well, or while it waits. -/
def Usage.after (closing : Bool) : Call (Except NodeError Unit × OutputPipe) → Option Usage
  | .done (.ok (), pipe) => some (if closing then .closed else .idle pipe)
  | .done (.error _, _) => none
  | call => some (.busy closing call)

def Usage.ends : Usage → Bool
  | .idle _ => false
  | .busy closing _ => closing
  | .closed => true

/-- Where a call of a writer may be interrupted: at its start, in a wait, or after a wait that has
run out and whose acknowledgements are lost. -/
def Phase.Pauses (lane : Lane) (rung waiting : Bool) : Phase → Prop
  | .resting _ => True
  | .flying _ _ => waiting = true ∨ rung = false ∧ lane.current = false ∧ lane.acks = []
  | _ => False

namespace Lane

/-- What a call of a writer comes to. -/
def Outcome (ack : AckHandle) (device : UInt64) (port : UInt16) (accepted : List Piece)
    (closing : Bool) : Phase → Except NodeError Unit × OutputPipe → Prop :=
  if closing then OutputPipe.Closes ack accepted
  else OutputPipe.Delivers ack device port accepted

/-- A lane in step with what its writer does. -/
inductive Serves (lane : Lane) (sender : Registry κ) (ack : AckHandle) (device : UInt64)
    (port : UInt16) (accepted delivered : List Piece) : Usage → Prop where
  | idle {pipe : OutputPipe} (stages : pipe.Stages ack device port accepted [])
      (carries : lane.Carries sender ack device port accepted delivered (.resting accepted)) :
      Serves lane sender ack device port accepted delivered (.idle pipe)
  | busy {phase : Phase} {closing : Bool} {call : Call (Except NodeError Unit × OutputPipe)}
      (obeys : call.Obeys device port accepted (Outcome ack device port accepted closing) phase)
      (carries : lane.Carries sender ack device port accepted delivered phase)
      (pauses : phase.Pauses lane (sender.rung ack.bell) call.isWaiting) :
      Serves lane sender ack device port accepted delivered (.busy closing call)
  | closed (carries : lane.Carries sender ack device port accepted delivered (.gone accepted [])) :
      Serves lane sender ack device port accepted delivered .closed

namespace Serves

variable {lane : Lane} {sender : Registry κ} {ack : AckHandle} {device : UInt64} {port : UInt16}
  {accepted delivered : List Piece} {usage : Usage}

theorem within (serves : lane.Serves sender ack device port accepted delivered usage) :
    delivered <+: accepted := by
  cases serves with
  | idle _ carries => exact carries.within
  | busy _ carries _ => exact carries.within
  | closed carries => exact carries.within

theorem bare (serves : lane.Serves sender ack device port accepted delivered usage) :
    ∀ frame ∈ lane.acks, frame.Bare := by
  cases serves with
  | idle _ carries => exact carries.bare
  | busy _ carries _ => exact carries.bare
  | closed carries => exact carries.bare

/-- When the pipe is closed, everything has been delivered and the waiter has been given up. -/
theorem ended (serves : lane.Serves sender ack device port accepted delivered .closed) :
    delivered = accepted ∧ sender.outputs.size = 0 := by
  cases serves with
  | closed carries =>
    refine ⟨?_, carries.left id⟩
    rcases carries.tracks with ⟨_, same, _⟩ | ⟨cargo, _, _⟩
    · exact same
    · exact absurd rfl cargo.nonempty

theorem opened (retry : RetryPolicy) (size : sender.outputs.size = 1)
    (waits : sender.Waits ack device none) :
    Lane.Serves {} sender ack device port [] [] (.idle (.create device port ack retry)) := by
  apply Serves.idle (OutputPipe.stages_create device port ack retry)
  constructor
  · intro _
    exact ⟨size, none, waits⟩
  · intro gone
    exact absurd trivial gone
  · exact List.prefix_refl []
  · exact nofun
  · exact ⟨rfl, rfl⟩

theorem write {pipe : OutputPipe} (data : Bytes)
    (opens : ∀ piece ∈ accepted, piece.kind ≠ .close)
    (serves : lane.Serves sender ack device port accepted delivered (.idle pipe)) :
    lane.Serves sender ack device port
      (accepted ++ OutputPipe.ofKind .data (OutputPipe.pieces data)) delivered
      (.busy false (pipe.writeThrough data)) := by
  cases serves with
  | idle stages carries =>
    have obeys := OutputPipe.writeThrough_obeys data stages
      (by rwa [List.append_nil])
    rw [List.append_nil] at obeys
    exact .busy obeys (carries.mono (List.prefix_append ..)) trivial

theorem close {pipe : OutputPipe} (opens : ∀ piece ∈ accepted, piece.kind ≠ .close)
    (serves : lane.Serves sender ack device port accepted delivered (.idle pipe)) :
    lane.Serves sender ack device port (accepted ++ [OutputPipe.closing]) delivered
      (.busy true pipe.close) := by
  cases serves with
  | idle stages carries =>
    have obeys := OutputPipe.close_obeys stages (by rwa [List.append_nil])
    rw [List.append_nil] at obeys
    exact .busy obeys (carries.mono (List.prefix_append ..)) trivial

/-- A call goes on, and ends well or has to wait again. -/
theorem perform {peer : Peer ε κ} {closing : Bool}
    {call : Call (Except NodeError Unit × OutputPipe)}
    (serves : lane.Serves peer.node.registry ack device port accepted delivered
      (.busy closing call)) (empty : peer.outbox = [])
    (well : Usage.after closing (Peer.link.perform ack call peer).1 = some usage) :
    (lane.launchAll (Peer.link.perform ack call peer).2.outbox).Serves
        (Peer.link.perform ack call peer).2.node.registry ack device port accepted delivered
        usage ∧
      Peer.Operates peer (Peer.link.perform ack call peer).2 ∧ usage.ends = closing ∧
      ∀ pipe, (Peer.link.perform ack call peer).1 = .done (.ok (), pipe) → pipe.ack = ack ∧
        (closing = true → pipe.isOpen = false) := by
  cases serves with
  | @busy phase _ _ obeys carries pauses =>
    have calm : ∀ confirmed pieces, phase = Phase.flying confirmed pieces →
        call.isWaiting = true ∨ peer.node.registry.rung ack.bell = false := by
      rintro confirmed pieces rfl
      exact pauses.imp_right And.left
    have launched : lane.launchAll peer.outbox = lane := by rw [empty]; rfl
    obtain ⟨later, halts, carries, operates⟩ :=
      Carries.perform obeys (launched.symm ▸ carries) calm
    generalize Peer.link.perform ack call peer = performed at halts carries well operates ⊢
    obtain ⟨result, after⟩ := performed
    cases halts with
    | @done _ value ends =>
      obtain ⟨_ | ⟨⟨⟩⟩, pipe⟩ := value
      · cases well
      · cases closing with
        | false =>
          cases well
          obtain ⟨rfl, stages⟩ := ends
          refine ⟨.idle stages carries, operates, rfl, ?_⟩
          rintro _ ⟨⟩
          exact ⟨stages.handle, nofun⟩
        | true =>
          cases well
          obtain ⟨rfl, handle, shut⟩ := ends
          refine ⟨.closed carries, operates, rfl, ?_⟩
          rintro _ ⟨⟩
          exact ⟨handle, fun _ => shut⟩
    | wait obeys =>
      cases well
      exact ⟨.busy obeys carries (.inl rfl), operates, rfl, nofun⟩

theorem expire {closing : Bool} {call : Call (Except NodeError Unit × OutputPipe)}
    (serves : lane.Serves sender ack device port accepted delivered (.busy closing call))
    (waiting : call.isWaiting = true) (unrung : sender.rung ack.bell = false) :
    lane.expire.Serves sender ack device port accepted delivered (.busy closing call.expire) := by
  cases serves with
  | busy obeys carries pauses =>
    cases obeys with
    | wait _ elapsed => exact .busy elapsed (carries.expire unrung) (.inr ⟨unrung, rfl, rfl⟩)
    | done | arm | launch | relaunch | confirm | abandon | abort | leave | giveUp => cases waiting

theorem arrive {frame : Frame} {rest : List Frame}
    (serves : lane.Serves sender ack device port accepted delivered usage)
    (oldest : lane.frames = frame :: rest) :
    ∃ confirmed pieces, frame = (carrier device port confirmed.length pieces).sealed ∧
      Cargo accepted confirmed pieces ∧
      (delivered = confirmed ∨ delivered = confirmed ++ pieces) ∧
      ∀ answers, (∀ answer ∈ answers, answer.Bare) →
        (lane.arrive rest answers).Serves sender ack device port accepted (confirmed ++ pieces)
          usage := by
  have busy : lane.frames ≠ [] := by simp [oldest]
  cases serves with
  | idle _ carries => exact absurd carries.tracks.2 busy
  | closed carries =>
    rcases carries.tracks with ⟨_, _, empty⟩ | ⟨cargo, _, _⟩
    · exact absurd empty busy
    · exact absurd rfl cargo.nonempty
  | @busy phase _ _ obeys carries pauses =>
    obtain ⟨confirmed, pieces, same, cargo, either, arrives⟩ := carries.arrive oldest
    refine ⟨confirmed, pieces, same, cargo, either, ?_⟩
    intro answers bare
    refine .busy obeys (arrives answers bare) ?_
    cases phase with
    | resting => trivial
    | flying =>
      refine pauses.imp_right fun ⟨unrung, past, silent⟩ => ⟨unrung, past, ?_⟩
      simp [Lane.arrive, past, silent]
    | armed | landed | lost | gone => cases pauses

theorem lose {frame : Frame} {rest : List Frame}
    (serves : lane.Serves sender ack device port accepted delivered usage)
    (oldest : lane.frames = frame :: rest) :
    (lane.lose rest).Serves sender ack device port accepted delivered usage := by
  cases serves with
  | idle stages carries => exact .idle stages (carries.lose oldest)
  | closed carries => exact .closed (carries.lose oldest)
  | busy obeys carries pauses => exact .busy obeys (carries.lose oldest) pauses

theorem hear (serves : lane.Serves sender ack device port accepted delivered usage) :
    lane.hear.Serves (lane.acks.foldl Registry.hearFrame sender) ack device port accepted
      delivered usage := by
  cases serves with
  | idle stages carries => exact .idle stages (carries.hear nofun)
  | closed carries => exact .closed (carries.hear nofun)
  | @busy phase _ _ obeys carries pauses =>
    cases phase with
    | resting => exact .busy obeys (carries.hear nofun) trivial
    | flying =>
      refine .busy obeys (carries.hear nofun) ?_
      refine pauses.imp_right fun ⟨unrung, past, silent⟩ => ⟨?_, past, rfl⟩
      rw [silent]
      exact unrung
    | armed | landed | lost | gone => cases pauses

/-- Only the waiters of the sending node and their bells count. -/
theorem of_same {other : Registry κ} (outputs : other.outputs = sender.outputs)
    (bells : other.bells = sender.bells)
    (serves : lane.Serves sender ack device port accepted delivered usage) :
    lane.Serves other ack device port accepted delivered usage := by
  cases serves with
  | idle stages carries => exact .idle stages (carries.of_same outputs bells)
  | closed carries => exact .closed (carries.of_same outputs bells)
  | busy obeys carries pauses =>
    refine .busy obeys (carries.of_same outputs bells) ?_
    rw [Registry.rung_eq, bells]
    exact pauses

end Serves

end Lane

end PipeBus
