import ExactLength.Stack.Move

/-!
# Pools

The inputs that a session works with outlive its calls: sources, files, streams and copy buffers are kept in pools
and are named by their place. A request is a call whose arguments are named so, and a turn is a move of a stack
whose call is a request. A turn is made into a move by fetching the arguments, and after the move they are put back
as the move left them.
-/

namespace ExactLength

/-- The inputs of a session. -/
structure Pools where
  /-- Sources. -/
  sources : List Source
  /-- Files. -/
  files : List File
  /-- Streams. -/
  readers : List Reader
  /-- The buffers through which streams are copied. -/
  throughs : List Bytes

/-- A source given in place, or by its place in the pool. -/
inductive SourceRef where
  /-- The source itself. -/
  | inline (src : Source)
  /-- The source at a place in the pool. -/
  | pooled (place : Nat)

/-- A call that takes nothing from its arguments. -/
inductive PlainCall where
  /-- A flush. -/
  | flush
  /-- The question whether writes are resumed. -/
  | isResumed
  /-- A wake-up. -/
  | wake
  /-- A wait of at most so many milliseconds. -/
  | wait (milliseconds : Option UInt64)
  /-- The end of the write side in order. -/
  | terminate
  /-- The write side is given up. -/
  | truncate

/-- The call that is meant. -/
def PlainCall.call : PlainCall → Call
  | flush => .flush
  | isResumed => .isResumed
  | wake => .wake
  | wait milliseconds => .wait milliseconds
  | terminate => .terminate
  | truncate => .truncate

/-- A call whose arguments are named. -/
inductive Request where
  /-- A write from a source. -/
  | write (src : SourceRef)
  /-- A write from a source that holds the last data. -/
  | writeLast (src : SourceRef)
  /-- A write from several sources. -/
  | writeMany (sources : List SourceRef)
  /-- A write from several sources that hold the last data. -/
  | writeManyLast (sources : List SourceRef)
  /-- A transfer from a file. -/
  | transferFile (file : Nat) (position count : UInt64)
  /-- A transfer from a stream through a buffer. -/
  | transferStream (reader : Nat) (count : UInt64) (through : Nat)
  /-- A call that has no inputs. -/
  | plain (call : PlainCall)

/-- A move whose call is a request. -/
inductive Turn where
  /-- A request enters at a level. -/
  | request (level : Nat) (request : Request)
  /-- The gate at a level starts a new cycle after a complete one. -/
  | renew (level : Nat) (length : UInt64) (passesClose : Bool)
  /-- The gate at a level starts a new cycle unconditionally. -/
  | restart (level : Nat) (length : UInt64) (passesClose : Bool)

/-- A file without the record of its reads. -/
def File.forget : File → File
  | scripted data actions _ => scripted data actions []
  | f => f

/-- A stream without the record of its reads. -/
def Reader.forget (r : Reader) : Reader :=
  { r with sizes := [] }

namespace Pools

/-- The source that is meant. -/
def fetch (p : Pools) : SourceRef → Source
  | .inline src => src
  | .pooled place => p.sources.getD place (.ofChunks [])

/-- Puts a source back, if it came from the pool. -/
def putBack (p : Pools) : SourceRef × Source → Pools
  | (.inline _, _) => p
  | (.pooled place, src) => { p with sources := p.sources.set place src }

/-- The call that a request means. -/
def call (p : Pools) : Request → Call
  | .write src => .write (p.fetch src)
  | .writeLast src => .writeLast (p.fetch src)
  | .writeMany sources => .writeMany (sources.map p.fetch)
  | .writeManyLast sources => .writeManyLast (sources.map p.fetch)
  | .transferFile file position count => .transferFile (p.files.getD file (.plain [])).forget position count
  | .transferStream reader count through =>
    .transferStream (p.readers.getD reader ⟨[], [], []⟩).forget count (p.throughs.getD through [])
  | .plain call => call.call

/-- The pools after a call, given the request that it came from. -/
def afterCall (p : Pools) : Request → Call → Pools
  | .write ref, .write src => p.putBack (ref, src)
  | .writeLast ref, .writeLast src => p.putBack (ref, src)
  | .writeMany refs, .writeMany sources => (refs.zip sources).foldl putBack p
  | .writeManyLast refs, .writeManyLast sources => (refs.zip sources).foldl putBack p
  | .transferFile place _ _, .transferFile file _ _ => { p with files := p.files.set place file }
  | .transferStream place _ buffer, .transferStream reader _ through =>
    { p with readers := p.readers.set place reader, throughs := p.throughs.set buffer through }
  | _, _ => p

/-- The move that a turn means. -/
def move (p : Pools) : Turn → Move
  | .request level request => .call level (p.call request)
  | .renew level length passesClose => .renew level length passesClose
  | .restart level length passesClose => .restart level length passesClose

/-- The pools after a move, given the turn that it came from. -/
def afterMove (p : Pools) : Turn → Move → Pools
  | .request _ request, .call _ call => p.afterCall request call
  | _, _ => p

end Pools

end ExactLength
