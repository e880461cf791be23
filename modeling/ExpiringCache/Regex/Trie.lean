/-!
# Tries

Words that share what they start with. The entries of a node stand with the latest first. A mark
says that a word ends there: entries after it are told apart from those before it, so that the
order of the words is kept. Entries between two marks make a chunk.
-/

namespace ExpiringCache

/-- The entries of a node. -/
inductive Trie where
  | done
  | mark (rest : Trie)
  | branch (byte : Nat) (child : Trie) (rest : Trie)
  deriving DecidableEq, Repr

namespace Trie

/-- Whether no word goes on from a node. -/
def isLeaf : Trie → Bool
  | done => true
  | mark rest => rest.isLeaf
  | branch _ _ _ => false

/-- A node where a word ends. A leaf needs one mark only. -/
def endWord : Trie → Trie
  | done => mark done
  | mark rest => if rest.isLeaf then mark rest else mark (mark rest)
  | branch byte child rest => mark (branch byte child rest)

/-- A node where a word goes on with a byte, given what becomes of the node that this leads to. -/
def extend (onChild : Trie → Trie) (byte : Nat) : Trie → Trie
  | branch byte' child rest =>
    if byte = byte' then branch byte' (onChild child) rest
    else branch byte' child (rest.extend onChild byte)
  | done => branch byte (onChild done) done
  | mark rest => branch byte (onChild done) (mark rest)

/-- A node with a word more. -/
def insert : List Nat → Trie → Trie
  | [], t => t.endWord
  | byte :: word, t => t.extend (insert word) byte

/-- The trie of some words. -/
def ofWords (words : List (List Nat)) : Trie := words.foldl (fun t word => t.insert word) done

/-- The numbers of branches in the chunks of a node. -/
def chunkLengths : Trie → List Nat
  | done => [0]
  | mark rest => 0 :: rest.chunkLengths
  | branch _ _ rest =>
    match rest.chunkLengths with
    | n :: chunks => (n + 1) :: chunks
    | [] => [1]

end Trie

end ExpiringCache
