import WorkDepot.Metrics.Counters

/-!
# Registries

Several registries of counters, reached through handles. A handle that is cloned reaches the same
registry as the one that it was cloned from.
-/
namespace WorkDepot.Metrics

structure Registries where
  counters : List Counters := [{}]
  /-- The registry that each handle reaches. -/
  handles : List Nat := [0]

inductive Request where
  | newRegistry
  | cloneHandle (handle : Nat)
  | increment (handle : Nat) (subject : Subject) (label : Text)
  | snapshot (handle : Nat)
  | render (handle : Nat)
  deriving DecidableEq

inductive Reply where
  | handle (number : Nat)
  | done
  | snapshot (sums : Snapshot)
  | text (rendered : Text)

namespace Registries

/-- The number of the registry that a handle reaches. -/
def reached (registries : Registries) (handle : Nat) : Nat := registries.handles.getD handle 0

def countersOf (registries : Registries) (handle : Nat) : Counters :=
  registries.counters.getD (registries.reached handle) {}

def update (registries : Registries) (handle : Nat) (change : Counters → Counters) : Registries :=
  { registries with counters := registries.counters.modify (registries.reached handle) change }

def serve (registries : Registries) : Request → Reply × Registries
  | .newRegistry =>
    (.handle registries.handles.length,
     { counters := registries.counters ++ [{}]
       handles := registries.handles ++ [registries.counters.length] })
  | .cloneHandle handle =>
    (.handle registries.handles.length,
     { registries with handles := registries.handles ++ [registries.reached handle] })
  | .increment handle subject label =>
    (.done, registries.update handle (·.increment subject label))
  | .snapshot handle =>
    (.snapshot (registries.countersOf handle).snapshot, registries.update handle Counters.watch)
  | .render handle => (.text (registries.countersOf handle).render, registries)

end Registries
end WorkDepot.Metrics
