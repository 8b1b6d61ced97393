import Observatory.Cache.Ring
import Observatory.Live
import Observatory.Text.Utf8
import Observatory.Trace.Line

/-! # The accumulator

Every line of the tracer passes through here. Lines of the monitor's own containers leave no trace.
An event is stored in the ring and then sent to the listener of its container; an overflow notice is
sent to every listener and stored nowhere; anything else is dropped. An event for which the ring has no
place is not forwarded either.
-/

namespace Observatory

open Trace

structure Accumulator where
  ring : Cache.Ring
  live : Live
  own : List ContainerId
deriving DecidableEq, Repr

namespace Accumulator

def empty (cacheSize : Nat) : Accumulator :=
  ⟨.empty cacheSize, .empty, []⟩

/-- Exclude a container of the monitor itself. -/
def addOwn (acc : Accumulator) (container : ContainerId) : Accumulator :=
  if container ∈ acc.own then acc else { acc with own := acc.own ++ [container] }

def isOwn (acc : Accumulator) (container : ContainerId) : Bool :=
  container ∈ acc.own

/-- The line comes from one of the monitor's own containers. -/
def isSelfEmitted (acc : Accumulator) (line : List Char) : Bool :=
  acc.own.any fun container => emitter? line == some container.text.toList

/-- Store an event and pass it on. -/
def accept (acc : Accumulator) (event : Event) : Accumulator :=
  match acc.ring.insert event with
  | (ring, some _) => { acc with ring := ring, live := acc.live.forward event }
  | (_, none) => acc

/-- What a line means to the accumulator: nothing, if it is self-emitted or malformed. -/
def message? (acc : Accumulator) (line : List Char) : Option Message :=
  if acc.isSelfEmitted line then none else (readLine line).toOption

/-- Take in one line. -/
def ingest (acc : Accumulator) (line : List Char) : Accumulator :=
  match acc.message? line with
  | none => acc
  | some .overflow => { acc with live := acc.live.broadcastOverflow }
  | some (.event event) => acc.accept event

def ingestAll (acc : Accumulator) (lines : List (List Char)) : Accumulator :=
  lines.foldl ingest acc

/-- The cached events of a container. -/
def query (acc : Accumulator) (container : ContainerId) : List Event :=
  acc.ring.eventsOf container

def register (acc : Accumulator) (container : ContainerId) : Accumulator × Subscription :=
  let (live, subscription) := acc.live.register container
  ({ acc with live := live }, subscription)

def unregister (acc : Accumulator) (subscription : Subscription) : Accumulator :=
  { acc with live := acc.live.unregister subscription }

def dropInbox (acc : Accumulator) (token : Nat) : Accumulator :=
  { acc with live := acc.live.dropInbox token }

def receive (acc : Accumulator) (token : Nat) : Received × Accumulator :=
  let (received, live) := acc.live.receive token
  (received, { acc with live := live })

/-! ## Streams of lines -/

def isLineEnd (c : Char) : Bool :=
  c == '\n' || c == '\r'

/-- The text of a line: unreadable bytes are replaced, and all line ends behind it are cut off. -/
def lineText (bytes : List UInt8) : List Char :=
  ((Text.Utf8.decodeLossy bytes).reverse.dropWhile isLineEnd).reverse

/-- Take in the bytes of a line. A line without text is passed over. -/
def ingestBytes (acc : Accumulator) (bytes : List UInt8) : Accumulator :=
  let line := lineText bytes
  if line.isEmpty then acc else acc.ingest line

def newline : UInt8 := 0x0A

/-- A stream that is being read. The bytes of the line that has begun are kept in reverse. -/
structure Reading where
  acc : Accumulator
  begun : List UInt8
deriving DecidableEq, Repr

/-- One byte. A newline belongs to the line that it ends. -/
def Reading.feed (reading : Reading) (byte : UInt8) : Reading :=
  if byte = newline then ⟨reading.acc.ingestBytes (byte :: reading.begun).reverse, []⟩
  else { reading with begun := byte :: reading.begun }

def readBytes (acc : Accumulator) (bytes : List UInt8) : Reading :=
  bytes.foldl Reading.feed ⟨acc, []⟩

/-- Take in the lines of a stream that ended. The last line needs no newline. -/
def consume (acc : Accumulator) (bytes : List UInt8) : Accumulator :=
  let reading := acc.readBytes bytes
  reading.acc.ingestBytes reading.begun.reverse

/-- Take in the lines of a stream that broke off. What follows the last newline is lost. -/
def consumeBroken (acc : Accumulator) (bytes : List UInt8) : Accumulator :=
  (acc.readBytes bytes).acc

end Accumulator

end Observatory
