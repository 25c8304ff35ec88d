import PipeBus.Proofs.Exchange
import PipeBus.Proofs.Opening
import PipeBus.Proofs.Requests

/-! Requests to a pipe whose frames meet their fates. At every moment the receiver has been told
a prefix of what the pipe has accepted, and after a flush or a close that succeeds all of it. -/

namespace PipeBus

variable {ω κ : Type}

/-- A writer and its pipe. The pieces that the pipe has accepted are on record, and the moments
that the exchange has been through. -/
structure Session (ω κ : Type) where
  exchange : Exchange ω κ
  ack : AckHandle
  pipe : OutputPipe
  accepted : List Piece := []
  moments : List (List Piece × Exchange ω κ) := []

namespace Session

variable (services : Exchange.Hosted κ)

def make (call : Call (Except NodeError Unit × OutputPipe)) (session : Session ω κ) :
    Except NodeError Unit × Session ω κ :=
  let made := (Exchange.link services).complete Exchange.meanwhile session.ack call session.exchange
  let passed := (Exchange.link services).trail Exchange.meanwhile session.ack call session.exchange
  (made.1.1, { session with
    exchange := made.2
    pipe := made.1.2
    moments := session.moments ++ passed.map (Prod.mk session.accepted) })

/-- Let the pipe accept pieces, up to the first that fails. -/
def take : List Piece → Session ω κ → Except NodeError Unit × Session ω κ
  | [], session => (.ok (), session)
  | piece :: rest, session =>
    match session.make services (session.pipe.pushPacket piece.data piece.kind) with
    | (.ok (), pushed) => take rest { pushed with accepted := pushed.accepted ++ [piece] }
    | (.error error, failed) => (.error error, failed)

/-- Serve a request by an open pipe, piece by piece. -/
def attempt (session : Session ω κ) : Request → Except NodeError Unit × Session ω κ
  | .write data => session.take services (Request.write data).pieces
  | .metadata data => session.take services (Request.metadata data).pieces
  | .flush => session.make services session.pipe.flush
  | .close =>
    match session.take services Request.close.pieces with
    | (.ok (), pushed) =>
      pushed.make services (pushed.pipe.flushStaging.bind fun (result, flushed) =>
        flushed.free.bind fun freed => .done (result, freed))
    | (.error error, failed) =>
      failed.make services (failed.pipe.free.bind fun freed => .done (.error error, freed))

/-- Serve a request. A pipe that is gone can only be closed. -/
def serve (request : Request) (session : Session ω κ) : Except NodeError Unit × Session ω κ :=
  if session.pipe.isOpen then session.attempt services request
  else (if request = .close then .ok () else .error .closed, session)

def run : List Request → Session ω κ → List (Except NodeError Unit) × Session ω κ
  | [], session => ([], session)
  | request :: rest, session =>
    let (result, served) := session.serve services request
    let (results, last) := run rest served
    (result :: results, last)

/-- What is seen of requests that are made one after the other. -/
structure Outcome (ω κ : Type) where
  results : List (Except NodeError Unit)
  passed : List (Exchange ω κ)
  pipe : OutputPipe
  exchange : Exchange ω κ

/-- Requests made one after the other, each by its call. -/
def calls (ack : AckHandle) : List Request → OutputPipe → Exchange ω κ → Outcome ω κ
  | [], pipe, exchange => ⟨[], [], pipe, exchange⟩
  | request :: rest, pipe, exchange =>
    let call := request.call pipe
    let made := (Exchange.link services).complete Exchange.meanwhile ack call exchange
    let passed := (Exchange.link services).trail Exchange.meanwhile ack call exchange
    let last := calls ack rest made.1.2 made.2
    { last with results := made.1.1 :: last.results, passed := passed ++ last.passed }

/-- The moment that a session has come to is on record. -/
def Present (session : Session ω κ) : Prop := session.exchange ∈ session.moments.map Prod.snd

/-- A session comes to what a call comes to, with every moment of the call on record. -/
structure Makes (call : Call (Except NodeError Unit × OutputPipe)) (session : Session ω κ)
    (made : Except NodeError Unit × Session ω κ) : Prop where
  outcome : (Exchange.link services).complete Exchange.meanwhile session.ack call session.exchange =
    ((made.1, made.2.pipe), made.2.exchange)
  ack : made.2.ack = session.ack
  grows : session.moments ⊆ made.2.moments
  passed : ∀ seen ∈ (Exchange.link services).trail Exchange.meanwhile session.ack call
    session.exchange, seen ∈ made.2.moments.map Prod.snd

section

variable {services : Exchange.Hosted κ} {call : Call (Except NodeError Unit × OutputPipe)}
  {session : Session ω κ} {made : Except NodeError Unit × Session ω κ}

theorem Makes.present (makes : Makes services call session made) : made.2.Present := by
  apply makes.passed
  have last := (Exchange.link services).mem_trail_end Exchange.meanwhile session.ack call
    session.exchange
  rwa [makes.outcome] at last

theorem Makes.done (result : Except NodeError Unit) (present : session.Present) :
    Makes services (.done (result, session.pipe)) session (result, session) where
  outcome := rfl
  ack := rfl
  grows := List.Subset.refl _
  passed seen passed := by rwa [List.mem_singleton.mp passed]

theorem Makes.bind {between : Except NodeError Unit × Session ω κ}
    {next : Except NodeError Unit × OutputPipe → Call (Except NodeError Unit × OutputPipe)}
    (first : Makes services call session between)
    (second : Makes services (next (between.1, between.2.pipe)) between.2 made) :
    Makes services (call.bind next) session made where
  outcome := by
    rw [NodeLink.complete_bind, first.outcome, ← first.ack]
    exact second.outcome
  ack := second.ack.trans first.ack
  grows := List.Subset.trans first.grows second.grows
  passed seen passed := by
    rcases NodeLink.mem_trail_bind _ _ _ passed with before | after
    · exact List.map_subset _ second.grows (first.passed seen before)
    · rw [first.outcome, ← first.ack] at after
      exact second.passed seen after

end

variable {session : Session ω κ} {device : UInt64} {port : UInt16} {id : SlotId} {sink : κ}
  {phase : Phase} {delivered : List Piece}

/-- At every moment the receiver had been told a prefix of what the pipe had accepted. -/
def Prefixes (session : Session ω κ) (sink : κ) : Prop :=
  ∀ moment ∈ session.moments, ∃ delivered, delivered <+: moment.1 ∧
    Exchange.Told moment.2.receiver.rest sink delivered

/-- A session between two requests. -/
structure Sound (session : Session ω κ) (device : UInt64) (port : UInt16) (id : SlotId) (sink : κ) :
    Prop where
  filled : ∀ piece ∈ session.accepted, piece.kind ≠ .close → piece.data ≠ []
  prefixes : session.Prefixes sink
  rests : ∃ phase delivered, session.pipe.Rests session.ack device port session.accepted phase ∧
    session.exchange.InPhase session.ack device port id sink session.accepted phase delivered

theorem Sound.opens (sound : session.Sound device port id sink)
    (isOpen : session.pipe.isOpen = true) : ∀ piece ∈ session.accepted, piece.kind ≠ .close := by
  obtain ⟨phase, delivered, rests, _⟩ := sound.rests
  cases rests with
  | closed _ shut => exact absurd (isOpen.symm.trans shut) (by decide)
  | isOpen _ opens _ => exact opens

section Push

variable {piece : Piece} {result : Except NodeError Unit} {pushed : Session ω κ}

end Push

/-- A request has succeeded: all its pieces have been accepted, and everything has been delivered
when it was to send what is staged. -/
structure Served (request : Request) (sink : κ) (before after : Session ω κ) : Prop where
  accepted : after.accepted = before.accepted ++ request.pieces
  isOpen : request ≠ .close → after.pipe.isOpen = true
  told : request = .flush ∨ request = .close →
    Exchange.Told after.exchange.receiver.rest sink after.accepted

/-- A session that begins when both ends of the pipe have been opened. -/
def start (exchange : Exchange ω κ) (pipe : OutputPipe) : Session ω κ where
  exchange
  ack := pipe.ack
  pipe
  moments := [([], exchange)]

theorem start_sound (exchange : Exchange ω κ) (pipe : OutputPipe)
    (heard : Exchange.Heard exchange.receiver device port id sink [])
    (waits : exchange.sender.registry.Waits pipe.ack device none)
    (stages : pipe.Stages pipe.ack device port [] []) :
    (start exchange pipe).Sound device port id sink where
  filled := List.forall_mem_nil _
  prefixes := List.forall_mem_singleton.mpr ⟨[], List.prefix_refl _, heard.log⟩
  rests := ⟨.resting [], [], .isOpen rfl (List.forall_mem_nil _) stages,
    heard, fun _ => ⟨none, waits⟩, List.prefix_refl _, rfl⟩

/-- A frame is lost, then an acknowledgement; one comes late, and all others at once. -/
def troubled : Nat → Fate
  | 0 => .lost
  | 1 => .unanswered
  | 2 => .answeredLate
  | _ => .answered

def writer : OutputPipe × Exchange Unit Unit :=
  (OutputPipe.create 2 97 ⟨⟨0, 0⟩, 0⟩ {}, ((Exchange.link []).openOutput 2 97
    ⟨Node.create { device := 1 } scatteredPorts, Exchange.listener.2, troubled, 0, []⟩).2)

end Session

end PipeBus
