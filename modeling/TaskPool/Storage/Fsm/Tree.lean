import TaskPool.Storage.Basic
import Mathlib.Order.WithBot
import Mathlib.Order.Fin.Basic
import Mathlib.Data.Finset.Insert

/-!
# The free space map

A vector of `2 * capacity - 1` nodes read as an implicit complete binary tree.
The leaf of page `p` is node `capacity - 1 + p`; it carries the bucket of the free
space last reported for the page.  An internal node carries the larger bucket of
its two children, `None` being below every bucket.

`none` is a panic of the source, an index outside the node vector.  A method on
`&mut self` returns the map it leaves behind together with its result.

Main results:

- Structure `FreeSpaceMap`: the node vector and its capacity.
- Definitions `FreeSpaceMap.registerPage` and `FreeSpaceMap.updatePage`: report the
  free space of a page.
- Definition `FreeSpaceMap.findPageExcluding`: the backtracking search.
-/

namespace TaskPool
namespace Storage

/-- `Bucket = u8`, with its order. -/
abbrev Bucket := Fin 256

/-- A node: the largest bucket below it, and the page of a leaf. -/
structure Node where
  maxBucket : WithBot Bucket
  pageId : Option PageId
deriving DecidableEq

/-- The errors of the free space map. -/
inductive FreeSpaceMapError where
  | invalidArgument
  | invalidFreeSpace
  | invalidPageId
  | pageDoesNotExist
deriving DecidableEq, Repr

/-- The free space map; the size of the node vector never changes. -/
structure FreeSpaceMap where
  nodes : List Node
  capacity : Nat
  capacity_pos : 0 < capacity
  length_eq : nodes.length = 2 * capacity - 1

namespace FreeSpaceMap

/-- An empty map for `capacity` pages. -/
def new (capacity : Nat) : Except FreeSpaceMapError FreeSpaceMap :=
  if h : capacity ≤ 0 then .error .invalidArgument
  else .ok
    { nodes := List.replicate (2 * capacity - 1) ⟨⊥, none⟩
      capacity := capacity
      capacity_pos := Nat.lt_of_not_le h
      length_eq := List.length_replicate }

/-- Replace node `i`. -/
def setNode (fsm : FreeSpaceMap) (i : Nat) (node : Node) : FreeSpaceMap :=
  { fsm with
    nodes := fsm.nodes.set i node
    length_eq := by rw [List.length_set, fsm.length_eq] }

/-- The bucket of a number of free bytes. -/
def getBucketId (freeSpace : Nat) : Except FreeSpaceMapError Bucket :=
  if freeSpace < 512 then .ok 0
  else if freeSpace < 1024 then .ok 1
  else if freeSpace < 1536 then .ok 2
  else if freeSpace < 2048 then .ok 3
  else if freeSpace < 2560 then .ok 4
  else if freeSpace < 3072 then .ok 5
  else if freeSpace < 3584 then .ok 6
  else if freeSpace < 4096 then .ok 7
  else .error .invalidFreeSpace

/-- The bucket of a number of free bytes that is less than a page. -/
def bucketOf (freeSpace : Nat) : Bucket :=
  Fin.ofNat 256 (freeSpace / 512)

/-- Recompute an internal node and everything above it. -/
def recomputeAncestors (fsm : FreeSpaceMap) (internalNode : Nat) : Option FreeSpaceMap :=
  if internalNode > fsm.capacity - 1 then some fsm
  else do
    let left := (← fsm.nodes[2 * internalNode + 1]?).maxBucket
    let right := (← fsm.nodes[2 * internalNode + 2]?).maxBucket
    let node ← fsm.nodes[internalNode]?
    let fsm := fsm.setNode internalNode
      { node with maxBucket := if left > right then left else right }
    if internalNode ≠ 0 then fsm.recomputeAncestors ((internalNode - 1) / 2) else some fsm
termination_by internalNode

/-- Recompute everything above a leaf. -/
def recomputeAbove (fsm : FreeSpaceMap) (leafIndex : Nat) : Option FreeSpaceMap :=
  if leafIndex ≠ 0 then fsm.recomputeAncestors ((leafIndex - 1) / 2) else some fsm

/-- Enter a page with its free space. -/
def registerPage (fsm : FreeSpaceMap) (pageId : PageId) (freeSpace : Nat) :
    Option (Except FreeSpaceMapError Bucket × FreeSpaceMap) :=
  if pageId.toNat ≥ fsm.capacity then some (.error .invalidPageId, fsm)
  else match getBucketId freeSpace with
    | .error e => some (.error e, fsm)
    | .ok reqBucket => do
      let leafIndex := fsm.capacity - 1 + pageId.toNat
      let _ ← fsm.nodes[leafIndex]?
      let fsm ← (fsm.setNode leafIndex ⟨reqBucket, some pageId⟩).recomputeAbove leafIndex
      return (.ok reqBucket, fsm)

/-- Report the free space of a page that was entered before. -/
def updatePage (fsm : FreeSpaceMap) (pageId : PageId) (freeSpace : Nat) :
    Option (Except FreeSpaceMapError Bucket × FreeSpaceMap) :=
  if pageId.toNat ≥ fsm.capacity then some (.error .invalidPageId, fsm)
  else match getBucketId freeSpace with
    | .error e => some (.error e, fsm)
    | .ok newBucket => do
      let leafIndex := fsm.capacity - 1 + pageId.toNat
      let leaf ← fsm.nodes[leafIndex]?
      if leaf.pageId ≠ some pageId then
        return (.error .pageDoesNotExist, fsm)
      let fsm ← (fsm.setNode leafIndex { leaf with maxBucket := newBucket }).recomputeAbove leafIndex
      return (.ok newBucket, fsm)

/-- Search below a node, leaving out the excluded pages. -/
def findPageRecursive (fsm : FreeSpaceMap) (requiredBucket : Bucket) (excluded : Finset PageId)
    (nodeIndex : Nat) : Option (Except FreeSpaceMapError (Option PageId)) := do
  let node ← fsm.nodes[nodeIndex]?
  if node.maxBucket < requiredBucket then
    return .ok none
  if nodeIndex ≥ fsm.capacity - 1 then
    match node.pageId with
    | none => return .ok none
    | some pageId => return .ok (if pageId ∈ excluded then none else some pageId)
  let fromLeft ←
    if 2 * nodeIndex + 1 < fsm.nodes.length then
      fsm.findPageRecursive requiredBucket excluded (2 * nodeIndex + 1)
    else some (.ok none)
  match fromLeft with
  | .error e => return .error e
  | .ok (some pageId) => return .ok (some pageId)
  | .ok none =>
    if 2 * nodeIndex + 2 < fsm.nodes.length then
      fsm.findPageRecursive requiredBucket excluded (2 * nodeIndex + 2)
    else some (.ok none)
termination_by fsm.nodes.length - nodeIndex

/-- Find a page whose bucket is at least that of the required space. -/
def findPageExcluding (fsm : FreeSpaceMap) (requiredSpace : Nat) (excluded : Finset PageId) :
    Option (Except FreeSpaceMapError (Option PageId)) :=
  match getBucketId requiredSpace with
  | .error e => some (.error e)
  | .ok requiredBucket =>
    if fsm.nodes.isEmpty then some (.ok none)
    else fsm.findPageRecursive requiredBucket excluded 0

/-- Find a page whose bucket is at least that of the required space. -/
def findPage (fsm : FreeSpaceMap) (requiredSpace : Nat) :
    Option (Except FreeSpaceMapError (Option PageId)) :=
  fsm.findPageExcluding requiredSpace ∅

/-- The bucket in the leaf of a page. -/
def getLeafBucket (fsm : FreeSpaceMap) (pageId : PageId) :
    Option (Except FreeSpaceMapError (Option Bucket)) :=
  if pageId.toNat ≥ fsm.capacity then some (.error .invalidPageId)
  else do
    let leaf ← fsm.nodes[fsm.capacity - 1 + pageId.toNat]?
    return .ok leaf.maxBucket

/-- The number of nodes. -/
def getLen (fsm : FreeSpaceMap) : Nat := fsm.nodes.length

/-- The number of leaves. -/
def getCapacity (fsm : FreeSpaceMap) : Nat := fsm.capacity

/-- The node with the maximum of all buckets. -/
def getRoot (fsm : FreeSpaceMap) : Option Node := fsm.nodes[0]?

end FreeSpaceMap

end Storage
end TaskPool
