import EntryForm.Pattern.Size

/-!
# Patterns — texts that share their beginnings

One of several texts is looked for with the beginnings that they share read once.  A text that
ends where others go on is to be preferred to those that come after it, not to those before: what
goes on from a place is kept apart by the texts that end there.
-/

namespace EntryForm.Pattern

/-- How the texts go on from a place: the next byte and what comes after it, before each of the
texts that end there, and after the last one. -/
inductive Trie where
  | node (before : List (List (Nat × Trie))) (after : List (Nat × Trie))

namespace Trie

/-- No text. -/
def empty : Trie := node [] []

/-- Nothing goes on from here. -/
def isLeaf : Trie → Bool
  | node before after => before.all List.isEmpty && after.isEmpty

/-- The texts with another one.  The bytes that a place goes on with are in no order. -/
def add : (bytes : List Nat) → Trie → Trie
  | [], node before after =>
      if !before.isEmpty && (node before after).isLeaf then node before after
      else node (before ++ [after]) []
  | b :: rest, node before after =>
      let child := (after.lookup b).getD empty
      node before (after.filter (·.1 != b) ++ [(b, child.add rest)])

/-- Some texts, of which the first is preferred. -/
def ofTexts (texts : List (List Nat)) : Trie := texts.foldl (fun t bytes => t.add bytes) empty

/-- The bytes of a state with so many transitions, if there are any. -/
def stateSize : Nat → Nat
  | 0 => 0
  | 1 => Size.state
  | n => Size.state + n * Size.transition

mutual

/-- The bytes that the states take up in which something goes on: one for each of the parts, and
one that leads to the parts and to the end. -/
def size : Trie → Nat
  | node before after =>
      if (node before after).isLeaf then 0
      else
        let parts := ((before ++ [after]).filter (!·.isEmpty)).length
        Size.state + Size.branch * (parts + before.length) + partsSize before +
          (stateSize after.length + childrenSize after)

/-- The size of some parts. -/
def partsSize : List (List (Nat × Trie)) → Nat
  | [] => 0
  | part :: rest => stateSize part.length + childrenSize part + partsSize rest

/-- The size of what the bytes lead to. -/
def childrenSize : List (Nat × Trie) → Nat
  | [] => 0
  | (_, t) :: rest => t.size + childrenSize rest

end

end Trie

end EntryForm.Pattern
