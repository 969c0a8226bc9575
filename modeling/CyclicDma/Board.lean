import CyclicDma.Driver.Allocation
import CyclicDma.Driver.Dispatch

/-! # Boards

A board carries several controllers, the owners of registrations that they share,
and clients. Clients hold channels and period futures, which they call by
names, and the memory regions that are not in use. A name stands for one channel
and for one future at a time; giving it to another lets the former go.
-/

namespace CyclicDma

/-- A channel that a client holds. -/
structure Handle where
  name : Nat
  controller : Nat
  channel : Nat
deriving DecidableEq, Repr

/-- A period future that a client holds. -/
structure HeldFuture where
  name : Nat
  controller : Nat
  future : PeriodFuture
deriving DecidableEq, Repr

/-- Controllers, owners and what clients hold. -/
structure Board where
  controllers : List Controller
  references : References
  handles : List Handle := []
  /-- Channels whose holder is gone. They stay allocated. -/
  abandoned : List Handle := []
  futures : List HeldFuture := []
  /-- Regions that were handed back. -/
  spare : List Region := []
  /-- Regions that were given to an initialization that failed. -/
  lost : List Region := []
  /-- The number of regions made so far. -/
  regions : Nat := 0
  /-- The ids of all registrations made so far. -/
  ids : List UInt32 := []

namespace Board

/-- A board of controllers whose drivers manage the given numbers of channels,
with a number of owners. No driver manages more channels than a controller can
have. -/
def new? (channels : List Nat) (owners : Nat) : Option Board :=
  (channels.mapM Controller.new?).map fun controllers =>
    { controllers, references := List.replicate owners 0 }

def handle? (name : Nat) (board : Board) : Option Handle :=
  board.handles.find? (·.name = name)

def future? (name : Nat) (board : Board) : Option HeldFuture :=
  board.futures.find? (·.name = name)

/-- Give up all futures of a channel. -/
def dropFutures (handle : Handle) (board : Board) : Board :=
  { board with
    futures := board.futures.filter fun held =>
      !(held.controller = handle.controller && held.future.channel = handle.channel) }

/-- Let a held channel go without giving it back, and its futures with it. -/
def letGo (handle : Handle) (board : Board) : Board :=
  { board.dropFutures handle with
    handles := board.handles.filter (·.name ≠ handle.name)
    abandoned := board.abandoned ++ [handle] }

def addHandle (handle : Handle) (board : Board) : Board :=
  let board := (board.handle? handle.name).elim board (letGo · board)
  { board with handles := board.handles ++ [handle] }

def dropFuture (name : Nat) (board : Board) : Board :=
  { board with futures := board.futures.filter (·.name ≠ name) }

def addFuture (held : HeldFuture) (board : Board) : Board :=
  let board := board.dropFuture held.name
  { board with futures := board.futures ++ [held] }

/-- All regions, in use or not. -/
def allRegions (board : Board) : List Region :=
  board.controllers.filterMap (fun controller => controller.setup.map (·.region)) ++
    board.spare ++ board.lost

/-- Some bytes of a region, as many as it has. -/
def memory? (number offset length : Nat) (board : Board) : Option (List UInt8) :=
  (board.allRegions.find? (·.number = number)).map fun region =>
    (region.bytes.drop offset).take length

end Board

end CyclicDma
