import DspInspector.Graph.Snapshot

/-!
# Published topologies

Readers always see a whole topology: a new one replaces the old one at once, and an acquisition that
fails leaves the old one in place. Publications are numbered, so that a reader can tell whether two
views are of the same publication.
-/

namespace DspInspector

/-- A topology as it was published. -/
structure Publication where
  number : Nat
  topology : Topology

namespace Publication

/-- The first publication. -/
def first (topology : Topology) : Publication := ⟨0, topology⟩

/-- The publication that replaces another one. -/
def publish (publication : Publication) (topology : Topology) : Publication :=
  ⟨publication.number + 1, topology⟩

/-- Publishes what an acquisition brings, if it brings anything. -/
def refresh (publication : Publication) (outcome : Except Fault Topology) : Publication :=
  match outcome with
  | .ok topology => publication.publish topology
  | .error _ => publication

/-- Acquires a topology and publishes it. The fault of a failed acquisition is part of the answer. -/
def rebuild {σ : Type} (publication : Publication) (connection : Connection)
    (transport : Transport σ) (capturedAt : Timestamp) (state : σ) :
    (Except Fault Topology × Publication) × σ :=
  let (outcome, after) := (Snapshot.acquire connection transport capturedAt).run state
  ((outcome, publication.refresh outcome), after)

end Publication

end DspInspector
