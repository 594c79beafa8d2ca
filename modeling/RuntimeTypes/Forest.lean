import RuntimeTypes.Registry

/-!
Forests given by a list of parents: node `i` is a root, or a child of an
earlier node.  Each node becomes a type whose base is the type of its parent.
-/

namespace RuntimeTypes

namespace Forest

/-- The parents of the nodes in order. -/
abbrev Parents := List (Option Nat)

/-- Each parent comes before its child; `first` is the number of the first node of the list. -/
def Ordered (first : Nat) : Parents → Prop
  | [] => True
  | parent? :: rest => (∀ j, parent? = some j → j < first) ∧ Ordered (first + 1) rest

/-- The name of a node: a common beginning, and the number of the node. -/
def nodeName (label : String) (i : Nat) : String :=
  label ++ toString i

/-- The types of the nodes, and what their definitions leave behind. -/
structure Planting where
  answer : Except Error (Array Descriptor)
  registry : Registry
  store : Arena Descriptor

/-- Defines the nodes of the list behind those that are there already.  The
first refusal ends the work. -/
def plantAfter (label : String) (r : Registry) (store : Arena Descriptor)
    (nodes : Array Descriptor) : Parents → Planting
  | [] => ⟨.ok nodes, r, store⟩
  | parent? :: rest =>
      let made := r.define store
        { name := nodeName label nodes.size
          base? := parent?.bind fun j => nodes[j]? }
      match made.answer with
      | .error e => ⟨.error e, made.registry, made.store⟩
      | .ok d => plantAfter label made.registry made.store (nodes.push d) rest

/-- Defines all nodes in a registry. -/
def plant (label : String) (r : Registry) (store : Arena Descriptor) (parents : Parents) :
    Planting :=
  plantAfter label r store #[] parents

/-- The number of the node whose type this is. -/
def nodeOf? (nodes : Array Descriptor) (d : Descriptor) : Option Nat :=
  nodes.findIdx? fun node => node.same d

end Forest

end RuntimeTypes
