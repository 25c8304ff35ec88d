/-!
A part of a larger state: how to look at it and how to replace it. Operations on
one part are written once and applied wherever the part is kept.
-/
namespace PipeBus

/-- Where in a state of type `σ` a part of type `α` is kept. -/
structure Lens (σ α : Type) where
  get : σ → α
  set : α → σ → σ

namespace Lens

variable {σ α β : Type}

def modify (lens : Lens σ α) (change : α → α) (state : σ) : σ :=
  lens.set (change (lens.get state)) state

/-- A part of a part. -/
def comp (outer : Lens σ α) (inner : Lens α β) : Lens σ β where
  get state := inner.get (outer.get state)
  set part state := outer.set (inner.set part (outer.get state)) state

def whole : Lens σ σ where
  get state := state
  set state _ := state

/-- The laws that make a lens a part: what was put in is what is found, putting back what was
found changes nothing, and the last part put in counts. -/
structure Lawful (lens : Lens σ α) : Prop where
  get_set : ∀ part state, lens.get (lens.set part state) = part
  set_get : ∀ state, lens.set (lens.get state) state = state
  set_set : ∀ first second state, lens.set second (lens.set first state) = lens.set second state

end Lens

end PipeBus
