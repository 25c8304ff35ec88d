import PipeBus.Frame.Codec

/-!
Frames into a byte stream. A stream may accept a part of what it is given, or
fail; interruptions are tried again, without repeating an accepted byte.
-/
namespace PipeBus

/-- How a stream answers one write. -/
inductive WriteReply where
  /-- Accept at most so many bytes. -/
  | accept (limit : Nat)
  | fault (fault : Fault)
  deriving DecidableEq

/-- A stream to write to: its coming answers, and what it has accepted so far. With no answer
left, every write is accepted whole and every flush succeeds. -/
structure Outlet where
  writes : List WriteReply := []
  flushes : List (Option Fault) := []
  accepted : Bytes := []
  writeCalls : Nat := 0
  flushCalls : Nat := 0

/-- Faults after which a call is simply made again. -/
def Fault.isTransient (fault : Fault) : Bool := fault = .interrupted ∨ fault = .wouldBlock

namespace Outlet

/-- Flush, given the answers still to come. -/
def flushWith (outlet : Outlet) : List (Option Fault) → Except FrameError Unit × Outlet
  | [] => (.ok (), { outlet with flushes := [], flushCalls := outlet.flushCalls + 1 })
  | none :: rest => (.ok (), { outlet with flushes := rest, flushCalls := outlet.flushCalls + 1 })
  | some fault :: rest =>
    let called := { outlet with flushes := rest, flushCalls := outlet.flushCalls + 1 }
    if fault.isTransient then called.flushWith rest else (.error (.stream fault), called)

def flush (outlet : Outlet) : Except FrameError Unit × Outlet := outlet.flushWith outlet.flushes

/-- Write bytes, given the answers still to come. -/
def writeWith (outlet : Outlet) (bytes : Bytes) : List WriteReply → Except FrameError Unit × Outlet
  | [] =>
    if bytes.isEmpty then (.ok (), outlet)
    else (.ok (), { outlet with
      writes := [], writeCalls := outlet.writeCalls + 1, accepted := outlet.accepted ++ bytes })
  | reply :: rest =>
    if bytes.isEmpty then (.ok (), outlet)
    else
      let called := { outlet with writes := rest, writeCalls := outlet.writeCalls + 1 }
      match reply with
      | .fault fault =>
        if fault.isTransient then called.writeWith bytes rest else (.error (.stream fault), called)
      | .accept 0 => (.error .connectionClosed, called)
      | .accept limit =>
        { called with accepted := called.accepted ++ bytes.take limit }.writeWith
          (bytes.drop limit) rest

def write (outlet : Outlet) (bytes : Bytes) : Except FrameError Unit × Outlet :=
  outlet.writeWith bytes outlet.writes

/-- Write a frame as it is stored, then flush. -/
def writeFrame (outlet : Outlet) (frame : Frame) : Except FrameError Unit × Outlet :=
  match outlet.write frame.toBytes with
  | (.error error, later) => (.error error, later)
  | (.ok (), later) => later.flush

end Outlet

end PipeBus
