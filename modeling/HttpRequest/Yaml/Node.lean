import HttpRequest.Yaml.Scalar

/-! # Nodes of a YAML document

A node is a scalar, a sequence, a mapping, or an alias of another node of the document. A node may have
an anchor, which is known by a number. Where several nodes have the same number, an alias means the last
of them in the order of the text.
-/
namespace HttpRequest.Yaml

inductive Node where
  | scalar (anchor : Option Nat) (s : Scalar)
  | alias (number : Nat)
  | sequence (anchor : Option Nat) (items : List Node)
  | mapping (anchor : Option Nat) (fields : List (Node × Node))
deriving Inhabited

namespace Node

def empty : Node :=
  .scalar none ⟨.plain, [], none⟩

def anchor? : Node → Option Nat
  | .scalar anchor _ | .sequence anchor _ | .mapping anchor _ => anchor
  | .alias _ => none

mutual

def anchored : Node → List (Nat × Node)
  | .scalar anchor s => (anchor.map fun n => (n, .scalar anchor s)).toList
  | .alias _ => []
  | .sequence anchor items =>
    (anchor.map fun n => (n, .sequence anchor items)).toList ++ anchoredItems items
  | .mapping anchor fields =>
    (anchor.map fun n => (n, .mapping anchor fields)).toList ++ anchoredFields fields

def anchoredItems : List Node → List (Nat × Node)
  | [] => []
  | item :: items => anchored item ++ anchoredItems items

def anchoredFields : List (Node × Node) → List (Nat × Node)
  | [] => []
  | (key, value) :: fields => anchored key ++ (anchored value ++ anchoredFields fields)

end

/-- The node that a node of a document stands for. -/
def resolve? (root : Node) : Node → Option Node
  | .alias number => (anchored root).reverse.lookup number
  | node => some node

end Node

end HttpRequest.Yaml
