/-!
A wake-up signal. Gives collapse into one pending token, and a wait that succeeds
uses it up.
-/
namespace PipeBus

/-- A signal, with whether its token is pending. -/
structure Notify where
  pending : Bool := false
  deriving DecidableEq

namespace Notify

instance : Inhabited Notify := ⟨{}⟩

/-- Leave a token, if none is pending. -/
def give (_ : Notify) : Notify := ⟨true⟩

def clear (_ : Notify) : Notify := ⟨false⟩

/-- Wait for a token without patience: whether one was pending. -/
def wait (notify : Notify) : Bool × Notify := (notify.pending, ⟨false⟩)

@[simp]
theorem wait_eq (notify : Notify) : notify.wait = (notify.pending, notify.clear) := rfl

end Notify

end PipeBus
