import Toolpath.Text.Basic

/-!
Events, and the bus that hands them to subscribers. A subscription collects the events that its filter
lets through; the bus can keep the last events itself.
-/

namespace Toolpath.Editor

inductive Source
  | user
  | history
  | core
  deriving DecidableEq, Repr

def Source.name : Source → Text
  | user => "User".toList
  | history => "History".toList
  | core => "Core".toList

inductive Category
  | editor
  | visualizer
  | diagnostics
  deriving DecidableEq, Repr

def Category.name : Category → Text
  | editor => "Editor".toList
  | visualizer => "Visualizer".toList
  | diagnostics => "Diagnostics".toList

inductive Event
  | lineSelected (line : Nat)
  | textChanged (source : Source) (nodes : Nat)
  | relativeModeAborted (line : Nat)
  | clusterExpanded (label members : Nat)
  | clusterCollapsed
  | checkCompleted (issues : Nat)
  deriving DecidableEq, Repr

namespace Event

def category : Event → Category
  | lineSelected _ | textChanged _ _ => .editor
  | relativeModeAborted _ | clusterExpanded _ _ | clusterCollapsed => .visualizer
  | checkCompleted _ => .diagnostics

def description : Event → Text
  | lineSelected line => "Select line ".toList ++ Text.ofNat line
  | textChanged source nodes =>
    "Text changed (".toList ++ source.name ++ "), ".toList ++ Text.ofNat nodes ++ " nodes".toList
  | relativeModeAborted line => "Projection aborted at line ".toList ++ Text.ofNat line ++ " (G91)".toList
  | clusterExpanded label members =>
    "Cluster ".toList ++ Text.ofNat label ++ " expanded (".toList ++ Text.ofNat members ++ " nodes)".toList
  | clusterCollapsed => "Cluster collapsed".toList
  | checkCompleted issues => "Check completed, ".toList ++ Text.ofNat issues ++ " issue(s)".toList

end Event

inductive Filter
  | all
  | categories (cs : List Category)
  deriving DecidableEq, Repr

def Filter.accepts : Filter → Event → Bool
  | all, _ => true
  | categories cs, e => cs.contains e.category

structure Subscription where
  id : Nat
  filter : Filter
  -- oldest first
  received : List Event
  deriving DecidableEq, Repr

structure Bus where
  subscriptions : List Subscription
  nextId : Nat
  capacity : Option Nat
  kept : List Event
  deriving DecidableEq, Repr

namespace Bus

def idleCapacity : Nat := 256

def new (capacity : Option Nat) : Bus := ⟨[], 0, capacity, []⟩

def subscribe (b : Bus) (f : Filter) : Nat × Bus :=
  (b.nextId, { b with subscriptions := b.subscriptions ++ [⟨b.nextId, f, []⟩], nextId := b.nextId + 1 })

def unsubscribe (b : Bus) (id : Nat) : Bool × Bus :=
  (b.subscriptions.any (·.id = id), { b with subscriptions := b.subscriptions.filter (·.id ≠ id) })

def deliver (e : Event) (s : Subscription) : Subscription :=
  if s.filter.accepts e then { s with received := s.received ++ [e] } else s

def keep (capacity : Option Nat) (kept : List Event) (e : Event) : List Event :=
  match capacity with
  | none => kept
  | some n => (kept ++ [e]).drop (kept.length + 1 - n)

def publish (b : Bus) (e : Event) : Nat × Bus :=
  (b.subscriptions.countP (·.filter.accepts e),
    { b with subscriptions := b.subscriptions.map (deliver e), kept := keep b.capacity b.kept e })

def history (b : Bus) : List Event := if b.capacity.isSome then b.kept else []

def clearHistory (b : Bus) : Bus := { b with kept := [] }

def drain (b : Bus) : List (Nat × Event) × Bus :=
  (b.subscriptions.flatMap fun s => s.received.map fun e => (s.id, e),
    { b with subscriptions := b.subscriptions.map fun s => { s with received := [] } })

def describe (b : Bus) : Text :=
  "EventBus \x7b subscribers: ".toList ++ Text.ofNat b.subscriptions.length ++
    ", config: EventBusConfig \x7b enable_history: ".toList ++
    (if b.capacity.isSome then "true" else "false").toList ++ ", max_history_size: ".toList ++
    Text.ofNat (b.capacity.getD idleCapacity) ++ " \x7d \x7d".toList

end Bus

end Toolpath.Editor
