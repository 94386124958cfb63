import Custody.Queue
import Custody.RankedQueue
import Custody.Text.Structure

/-!
# Descriptions of containers

The structural descriptions of rings, queues and cursors. Everything shows:
links, keys left behind in free slots, and the stamp.
-/

namespace Custody

def Slot.describe {κ α : Type} (key : κ → String) (value : α → String) (s : Slot κ α) : String :=
  Text.record "Slot"
    [("value", Text.optional (s.value.map value)), ("key", key s.key), ("next", toString s.next)]

def Ring.describe {κ α : Type} (key : κ → String) (value : α → String) (r : Ring κ α) : String :=
  Text.record "Arena"
    [("slots", Text.sequence (r.slots.toList.map (Slot.describe key value))),
      ("head", toString r.head), ("tail", toString r.tail), ("len", toString r.size),
      ("stamp", toString r.stamp)]

def Queue.describe {α : Type} (value : α → String) (q : Queue α) : String :=
  Text.record "BoundedQueue" [("arena", q.ring.describe (fun _ => "()") value)]

def RankedQueue.describe {α : Type} (value : α → String) (q : RankedQueue α) : String :=
  Text.record "BoundedPriorityQueue"
    [("arena", q.ring.describe toString value), ("order", q.order.tag)]

def Cursor.describe (c : Cursor) : String :=
  Text.record "Cursor"
    [("previous", Text.optional (c.previous.map toString)),
      ("current", Text.optional (c.current.map toString)),
      ("upcoming", Text.optional (c.upcoming.map toString)),
      ("stamp", toString c.stamp)]

end Custody
