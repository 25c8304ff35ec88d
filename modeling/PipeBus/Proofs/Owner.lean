import PipeBus.Proofs.Standing

/-! An output pipe in the hands of its owner, who makes requests of it one after the other and drops
it in the end. Whatever is done with a pipe, no waiter but its own is affected, and the replies tell
whether the pipe is open (`Owner.Sits.act`). -/

namespace PipeBus

variable {ε κ : Type}

/-- What the owner of a pipe was told after a request, and whether the pipe was open before and
after it. -/
structure Reply where
  request : Request
  wasOpen : Bool
  result : Except NodeError Unit
  isOpen : Bool

/-- The replies that there are from a pipe to a device. -/
inductive Reply.Fits (device : UInt64) : Reply → Prop where
  | kept {request : Request} (other : request ≠ .close) :
      Fits device ⟨request, true, .ok (), true⟩
  | closed : Fits device ⟨.close, true, .ok (), false⟩
  | reset (request : Request) : Fits device ⟨request, true, .error (.reset device), false⟩
  | refused {request : Request} (other : request ≠ .close) :
      Fits device ⟨request, false, .error .closed, false⟩
  | closedAgain : Fits device ⟨.close, false, .ok (), false⟩

/-- A pipe in the hands of its owner. -/
structure Owner where
  /-- The pipe as the last call left it. -/
  pipe : OutputPipe
  /-- The request that is being served, and the rest of its call. -/
  work : Option (Request × Call (Except NodeError Unit × OutputPipe)) := none
  dropped : Bool := false
  replies : List Reply := []

namespace Owner

inductive Act where
  | ask (request : Request)
  | step
  | lapse
  | drop

def goOn (owner : Owner) (request : Request) :
    Call (Except NodeError Unit × OutputPipe) → Owner
  | .done (result, pipe) =>
    { owner with
      pipe
      work := none
      replies := owner.replies ++ [⟨request, owner.pipe.isOpen, result, pipe.isOpen⟩] }
  | call => { owner with work := some (request, call) }

/-- Do something with a pipe. Nothing is asked of a pipe while a call of it is under way, nor after
it has been dropped. -/
def act (owner : Owner) (peer : Peer ε κ) : Act → Owner × Peer ε κ
  | .ask request =>
    if owner.work.isSome || owner.dropped then (owner, peer)
    else (owner.goOn request (request.call owner.pipe), peer)
  | .step =>
    match owner.work with
    | none => (owner, peer)
    | some (request, call) =>
      let (rest, later) := Peer.link.advance owner.pipe.ack call peer
      (owner.goOn request rest, later)
  | .lapse =>
    match owner.work with
    | none => (owner, peer)
    | some (request, call) =>
      if Peer.link.isRung owner.pipe.ack peer then (owner, peer)
      else (owner.goOn request call.expire, peer)
  | .drop =>
    if owner.work.isSome || owner.dropped then (owner, peer)
    else
      ({ owner with
          pipe := { owner.pipe with isOpen := false, staging := none }
          dropped := true },
        Peer.link.dropOutput owner.pipe peer)

/-- Where the waiter of a pipe stands, by what is being done with the pipe. -/
inductive Stands (owner : Owner) : Standing → Prop where
  | isOpen (idle : owner.work = none) (isOpen : owner.pipe.isOpen = true) : Stands owner .resting
  | shut (idle : owner.work = none) (shut : owner.pipe.Ended) : Stands owner .away
  | busy {standing : Standing} {request : Request}
      {call : Call (Except NodeError Unit × OutputPipe)}
      (working : owner.work = some (request, call)) (isOpen : owner.pipe.isOpen = true)
      (minds : call.Minds (owner.pipe.Settles request.closes) standing) : Stands owner standing

/-- An owner whose waiter stands somewhere, and whose replies are ones that there are. -/
structure Sits (owner : Owner) (standing : Standing) : Prop where
  stands : owner.Stands standing
  fits : ∀ reply ∈ owner.replies, reply.Fits owner.pipe.device

variable {owner : Owner} {standing later : Standing} {peer : Peer ε κ}

theorem fits_of_settles {pipe after : OutputPipe} {request : Request}
    {result : Except NodeError Unit} (isOpen : pipe.isOpen = true)
    (settles : pipe.Settles request.closes standing (result, after)) :
    Reply.Fits pipe.device ⟨request, pipe.isOpen, result, after.isOpen⟩ := by
  rw [isOpen]
  generalize closing : request.closes = closes at settles
  cases settles with
  | kept follows held =>
    rw [held]
    refine .kept ?_
    rintro rfl
    cases closing
  | closed follows shut =>
    rw [shut.closed]
    cases request with
    | close => exact .closed
    | write | metadata | flush => cases closing
  | reset follows shut =>
    rw [shut.closed]
    exact .reset request

theorem sits_goOn {request : Request} {call : Call (Except NodeError Unit × OutputPipe)}
    (fits : ∀ reply ∈ owner.replies, reply.Fits owner.pipe.device)
    (isOpen : owner.pipe.isOpen = true)
    (minds : call.Minds (owner.pipe.Settles request.closes) standing) :
    (owner.goOn request call).Sits standing ∧ owner.pipe.Follows (owner.goOn request call).pipe := by
  cases minds with
  | arm rest => exact ⟨⟨.busy rfl isOpen (.arm rest), fits⟩, .refl _⟩
  | send expected rest => exact ⟨⟨.busy rfl isOpen (.send expected rest), fits⟩, .refl _⟩
  | wait rest => exact ⟨⟨.busy rfl isOpen (.wait rest), fits⟩, .refl _⟩
  | disarm rest => exact ⟨⟨.busy rfl isOpen (.disarm rest), fits⟩, .refl _⟩
  | release rest => exact ⟨⟨.busy rfl isOpen (.release rest), fits⟩, .refl _⟩
  | @done _ value ends =>
    obtain ⟨result, after⟩ := value
    have replied := fits_of_settles isOpen ends
    obtain ⟨follows, left⟩ := ends.leaves
    refine ⟨⟨?_, fun reply member => ?_⟩, follows⟩
    · rcases left with ⟨rfl, held⟩ | ⟨rfl, shut⟩
      · exact .isOpen rfl held
      · exact .shut rfl shut
    · change reply.Fits after.device
      rw [follows.target]
      rcases List.mem_append.mp member with old | new
      · exact fits reply old
      · exact List.mem_singleton.mp new ▸ replied

theorem goOn_of_closed (request : Request) (closed : owner.pipe.isOpen = false) :
    owner.goOn request (request.call owner.pipe) =
      { owner with
        work := none
        replies := owner.replies ++
          [⟨request, false, if request = .close then .ok () else .error .closed, false⟩] } := by
  rw [OutputPipe.call_of_closed request closed, goOn, closed]

theorem fits_of_closed (device : UInt64) (request : Request) :
    Reply.Fits device
      ⟨request, false, if request = .close then .ok () else .error .closed, false⟩ := by
  by_cases closing : request = .close
  · rw [if_pos closing, closing]
    exact .closedAgain
  · rw [if_neg closing]
    exact .refused closing

/-- The owner after something was done with the pipe, whose waiter alone was affected. -/
def Keeps (owner : Owner) (peer : Peer ε κ) (after : Owner × Peer ε κ) : Prop :=
  ∃ later, after.1.Sits later ∧ owner.pipe.Follows after.1.pipe ∧
    peer.node.registry.Shifts after.2.node.registry owner.pipe later

section

variable (tidy : peer.node.registry.outputs.Tidy)
  (waits : peer.node.registry.outputs.get? owner.pipe.ack.slot = standing.waiter? owner.pipe)

include tidy waits

theorem Sits.still (sits : owner.Sits standing) : owner.Keeps peer (owner, peer) :=
  ⟨standing, sits, .refl _, .of_outputs tidy waits rfl⟩

theorem Sits.act_open (sits : owner.Sits standing) (act : Act) (idle : owner.work = none)
    (isOpen : owner.pipe.isOpen = true) (rests : standing = .resting) :
    owner.Keeps peer (owner.act peer act) := by
  subst rests
  cases act with
  | ask request =>
    rw [Owner.act]
    split
    · exact sits.still tidy waits
    · obtain ⟨after, follows⟩ := sits_goOn sits.fits isOpen (request.call_minds isOpen)
      exact ⟨.resting, after, follows, .of_outputs tidy waits rfl⟩
  | step | lapse =>
    rw [Owner.act, idle]
    exact sits.still tidy waits
  | drop =>
    rw [Owner.act]
    split
    · exact sits.still tidy waits
    · refine ⟨.away, ⟨.shut idle ⟨rfl, rfl⟩, sits.fits⟩, ⟨rfl, rfl⟩, ?_⟩
      rw [NodeLink.dropOutput, if_pos isOpen]
      exact Registry.shifts_unregisterOutput tidy waits

theorem Sits.act_shut (sits : owner.Sits standing) (act : Act) (idle : owner.work = none)
    (shut : owner.pipe.Ended) (gone : standing = .away) :
    owner.Keeps peer (owner.act peer act) := by
  subst gone
  cases act with
  | ask request =>
    rw [Owner.act]
    split
    · exact sits.still tidy waits
    · rw [goOn_of_closed request shut.closed]
      refine ⟨.away, ⟨.shut rfl shut, fun reply member => ?_⟩, .refl _, .of_outputs tidy waits rfl⟩
      rcases List.mem_append.mp member with old | new
      · exact sits.fits reply old
      · obtain rfl := List.mem_singleton.mp new
        exact fits_of_closed _ request
  | step | lapse =>
    rw [Owner.act, idle]
    exact sits.still tidy waits
  | drop =>
    rw [Owner.act]
    split
    · exact sits.still tidy waits
    · refine ⟨.away, ⟨.shut idle ⟨rfl, rfl⟩, sits.fits⟩, ⟨rfl, rfl⟩, ?_⟩
      rw [NodeLink.dropOutput, shut.closed, if_neg Bool.false_ne_true]
      exact .of_outputs tidy waits rfl

theorem Sits.act_busy (sits : owner.Sits standing) (act : Act) {request : Request}
    {call : Call (Except NodeError Unit × OutputPipe)}
    (working : owner.work = some (request, call)) (isOpen : owner.pipe.isOpen = true)
    (minds : call.Minds (owner.pipe.Settles request.closes) standing) :
    owner.Keeps peer (owner.act peer act) := by
  cases act with
  | ask | drop =>
    rw [Owner.act, working]
    exact sits.still tidy waits
  | step =>
    obtain ⟨later, rest, shifts⟩ := minds.advance tidy waits
    obtain ⟨after, follows⟩ := sits_goOn sits.fits isOpen rest
    rw [Owner.act, working]
    exact ⟨later, after, follows, shifts⟩
  | lapse =>
    rw [Owner.act, working]
    dsimp only
    split
    · exact sits.still tidy waits
    · obtain ⟨after, follows⟩ := sits_goOn sits.fits isOpen minds.expire
      exact ⟨standing, after, follows, .of_outputs tidy waits rfl⟩

/-- Whatever is done with a pipe, its waiter alone is affected. -/
theorem Sits.act (sits : owner.Sits standing) (act : Act) :
    owner.Keeps peer (owner.act peer act) := by
  cases sits.stands with
  | isOpen idle isOpen => exact sits.act_open tidy waits act idle isOpen rfl
  | shut idle shut => exact sits.act_shut tidy waits act idle shut rfl
  | busy working isOpen minds => exact sits.act_busy tidy waits act working isOpen minds

end

/-- Nothing comes of what is done with a closed pipe that no call is made of. -/
theorem act_of_ended (idle : owner.work = none) (shut : owner.pipe.Ended) (peer : Peer ε κ)
    (act : Act) : (owner.act peer act).2 = peer ∧ (owner.act peer act).1.pipe = owner.pipe ∧
      (owner.act peer act).1.work = none := by
  cases act with
  | ask request =>
    rw [Owner.act, goOn_of_closed request shut.closed]
    split
    · exact ⟨rfl, rfl, idle⟩
    · exact ⟨rfl, rfl, rfl⟩
  | step | lapse =>
    rw [Owner.act, idle]
    exact ⟨rfl, rfl, idle⟩
  | drop =>
    rw [Owner.act, NodeLink.dropOutput, shut.closed, if_neg Bool.false_ne_true]
    split
    · exact ⟨rfl, rfl, idle⟩
    · obtain ⟨closed, empty⟩ := shut
      refine ⟨rfl, ?_, idle⟩
      rw [← closed, ← empty]

end Owner

end PipeBus
