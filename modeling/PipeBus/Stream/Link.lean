import PipeBus.Stream.Reader
import PipeBus.Stream.Writer

/-!
A frame link over a byte stream in each direction. The reading side decodes
frames, skipping what is none, into an inbox of fixed depth; a frame that meets a
full inbox is dropped. The writing side reports whether a frame was accepted.
-/
namespace PipeBus

/-- A link with the frames received and not yet taken. -/
structure StreamLink where
  reader : FrameReader
  outlet : Outlet := {}
  depth : Nat
  inbox : List Frame := []
  /-- The reading side has ended. -/
  closed : Bool := false

namespace StreamLink

/-- Open a link. An inbox holds at least one frame. -/
def start (source : Source) (outlet : Outlet) (depth : Nat) : StreamLink where
  reader := { source, skipInvalid := true }
  outlet
  depth := max depth 1

/-- Put one frame into the inbox, if it has room. -/
def enqueue (link : StreamLink) (frame : Frame) : StreamLink :=
  if link.inbox.length < link.depth then { link with inbox := link.inbox ++ [frame] } else link

/-- Read the stream to its end, without anybody taking frames meanwhile. -/
def readToEnd (link : StreamLink) : StreamLink :=
  { link.reader.collect.1.foldl enqueue link with closed := true }

/-- What the reading side does once nobody is left to take its frames: it ends at the next frame,
the end of the stream or an error, whichever comes first. -/
def abandon (link : StreamLink) : StreamLink := { link with reader := link.reader.next.2 }

/-- Take the oldest frame of the inbox. -/
def receive (link : StreamLink) : Option Frame × StreamLink :=
  match link.inbox with
  | [] => (none, link)
  | frame :: rest => (some frame, { link with inbox := rest })

/-- Write a frame to the other side; false when the stream refused it. -/
def send (link : StreamLink) (frame : Frame) : Bool × StreamLink :=
  let (result, outlet) := link.outlet.writeFrame frame
  (result.isOk, { link with outlet })

/-- Write frames one after the other: which of them were accepted. -/
def sendAll (link : StreamLink) : List Frame → List Bool × StreamLink
  | [] => ([], link)
  | frame :: rest =>
    let (accepted, written) := link.send frame
    let (others, last) := written.sendAll rest
    (accepted :: others, last)

end StreamLink

end PipeBus
