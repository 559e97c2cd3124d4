import ComponentSupport.Pattern.Automaton.State

/-!
# Words side by side

Branches that are plain texts are joined in a trie, so that what several of them begin with is taken
by the same states. The order of the branches is kept: where a word ends, what was added before it
and what is added after it stand in different layers.
-/

namespace ComponentSupport.Pattern.Automaton

/-- Words by their first byte. `closed` are the layers before each word that ends here, `layer` is
what came after the last of them, in the order of the bytes. -/
inductive Trie where
  | node (closed : List (List (UInt8 × Trie))) (layer : List (UInt8 × Trie))

namespace Trie

/-- Changes what follows a byte. -/
def change (f : Trie → Trie) (b : UInt8) : List (UInt8 × Trie) → List (UInt8 × Trie)
  | [] => [(b, f (node [] []))]
  | (c, t) :: rest =>
    if b < c then (b, f (node [] [])) :: (c, t) :: rest
    else if b = c then (c, f t) :: rest
    else (c, t) :: change f b rest

/-- No byte follows. -/
def isLeaf : Trie → Bool
  | node closed layer => closed.all (·.isEmpty) && layer.isEmpty

/-- Adds a word. -/
def insert : List UInt8 → Trie → Trie
  | [], node closed layer =>
    if (node closed layer).isLeaf && !closed.isEmpty then node closed layer
    else node (closed ++ [layer]) []
  | b :: rest, node closed layer => node closed (change (insert rest) b layer)

/-- The trie of some words. -/
def ofWords (words : List (List UInt8)) : Trie :=
  words.foldl (fun t w => t.insert w) (node [] [])

/-- Adds the state that leads on from a layer, if there is one. -/
def addLayer : List Transition → Build (List Nat)
  | [] => return []
  | [t] => return [← add (.byte t.range t.next)]
  | ts => return [← add (.bytes ts)]

mutual

/-- Builds the states of a trie and answers the first; its words lead to `target`. -/
def build (target : Nat) : Trie → Build Nat
  | node closed layer => do
    let ended ← buildLayers target closed
    let rest ← buildLayer target layer
    let rest ← addLayer rest
    add (.fork (ended ++ rest))

/-- Builds the layers of a trie, behind each of which a word ends; answers where they begin. -/
def buildLayers (target : Nat) : List (List (UInt8 × Trie)) → Build (List Nat)
  | [] => return []
  | layer :: layers => do
    let first ← buildLayer target layer
    let first ← addLayer first
    return first ++ target :: (← buildLayers target layers)

/-- Builds what follows the bytes of a layer. -/
def buildLayer (target : Nat) : List (UInt8 × Trie) → Build (List Transition)
  | [] => return []
  | (b, t) :: rest => do
    let next ← if t.isLeaf then pure target else build target t
    return ⟨ByteRange.single b, next⟩ :: (← buildLayer target rest)

end

end Trie

/-- Builds words side by side. -/
def ofWords (words : List (List UInt8)) : Build Fragment := do
  let target ← add (.skip 0)
  let first ← (Trie.ofWords words).build target
  return ⟨first, target⟩

end ComponentSupport.Pattern.Automaton
