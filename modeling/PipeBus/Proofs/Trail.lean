import PipeBus.Node.Basic

/-! Calls one after the other, and the states that a call passes through. -/

namespace PipeBus.NodeLink

variable {σ κ α β : Type} (link : NodeLink σ κ) (meanwhile : Duration → σ → σ) (ack : AckHandle)

/-- The states that a call passes through, from the one that it starts in to the last. -/
def trail : Call α → σ → List σ
  | .done _, state => [state]
  | .arm crc next, state =>
    state :: trail next (link.registry.modify (·.arm ack.slot crc) state)
  | .send frame next, state => state :: trail next (link.tx.pushFrame frame state).2
  | .wait delay next, state =>
    let later := if link.isRung ack state then state else meanwhile delay state
    state :: later ::
      if link.isRung ack later then trail (next true) (link.answer ack later)
      else trail (next false) later
  | .disarm next, state => state :: trail next (link.registry.modify (·.disarm ack.slot) state)
  | .release next, state =>
    state :: trail next
      (link.registry.modify (fun registry => (registry.unregisterOutput ack.slot).2) state)

theorem mem_trail_end (call : Call α) (state : σ) :
    (link.complete meanwhile ack call state).2 ∈ link.trail meanwhile ack call state := by
  induction call generalizing state with
  | done value => exact List.mem_singleton_self _
  | arm crc next ih => exact List.mem_cons_of_mem _ (ih _)
  | send frame next ih => exact List.mem_cons_of_mem _ (ih _)
  | wait delay next ih =>
    rw [complete, trail]
    refine List.mem_cons_of_mem _ (List.mem_cons_of_mem _ ?_)
    by_cases rung : link.isRung ack
        (if link.isRung ack state then state else meanwhile delay state) = true
    · simp only [rung, ↓reduceIte]
      exact ih true _
    · simp only [rung]
      exact ih false _
  | disarm next ih => exact List.mem_cons_of_mem _ (ih _)
  | release next ih => exact List.mem_cons_of_mem _ (ih _)

/-- A call that goes on as another one takes the steps of both. -/
theorem complete_bind (call : Call α) (next : α → Call β) (state : σ) :
    link.complete meanwhile ack (call.bind next) state =
      link.complete meanwhile ack (next (link.complete meanwhile ack call state).1)
        (link.complete meanwhile ack call state).2 := by
  induction call generalizing state with
  | done value => rfl
  | arm crc rest ih => exact ih _
  | send frame rest ih => exact ih _
  | wait delay rest ih =>
    rw [Call.bind, complete, complete]
    by_cases rung : link.isRung ack
        (if link.isRung ack state then state else meanwhile delay state) = true
    · simp only [rung, ↓reduceIte]
      exact ih true _
    · simp only [rung]
      exact ih false _
  | disarm rest ih => exact ih _
  | release rest ih => exact ih _

theorem mem_trail_bind {call : Call α} {next : α → Call β} {state seen : σ}
    (passed : seen ∈ link.trail meanwhile ack (call.bind next) state) :
    seen ∈ link.trail meanwhile ack call state ∨
      seen ∈ link.trail meanwhile ack (next (link.complete meanwhile ack call state).1)
        (link.complete meanwhile ack call state).2 := by
  induction call generalizing state with
  | done value => exact .inr passed
  | arm crc rest ih | send frame rest ih | disarm rest ih | release rest ih =>
    rcases List.mem_cons.mp passed with first | later
    · exact .inl (List.mem_cons.mpr (.inl first))
    · exact (ih later).imp_left (List.mem_cons_of_mem _)
  | wait delay rest ih =>
    rw [Call.bind, trail] at passed
    rw [trail, complete]
    rcases List.mem_cons.mp passed with first | waited
    · exact .inl (List.mem_cons.mpr (.inl first))
    rcases List.mem_cons.mp waited with second | later
    · exact .inl (List.mem_cons_of_mem _ (List.mem_cons.mpr (.inl second)))
    · by_cases rung : link.isRung ack
          (if link.isRung ack state then state else meanwhile delay state) = true
      · simp only [rung, ↓reduceIte] at later ⊢
        exact (ih true later).imp_left fun before =>
          List.mem_cons_of_mem _ (List.mem_cons_of_mem _ before)
      · simp only [rung] at later ⊢
        exact (ih false later).imp_left fun before =>
          List.mem_cons_of_mem _ (List.mem_cons_of_mem _ before)

end PipeBus.NodeLink
