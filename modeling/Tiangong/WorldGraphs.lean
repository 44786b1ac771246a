import Mathlib.Data.Finset.Basic
import Tiangong.CompletionGate
import Tiangong.WorldStates

/-!
# World graphs

The frame of a software world, and the sparse graph of its entities and relations with the three
indices that are kept beside them. A bucket of an index is the set of the pairs with its key.
-/
namespace Tiangong

structure FrameFields where
  scope : WorldScope
  workspace : String
  repository : String
  worktree : String
  branch : String
  commit : String
  environment : String
  time : WorldTime
  worldCut : Option WorldCut
  deriving DecidableEq

namespace FrameFields

/-- What `build` demands. -/
def valid (f : FrameFields) : Bool :=
  [f.workspace, f.repository, f.worktree, f.branch, f.commit, f.environment].all
      (fun value => value.toList.any fun c => !isPythonSpace c) &&
    f.worldCut.all fun cut => f.scope.sameIdentity cut.scope

end FrameFields

abbrev SoftwareWorldFrame := Sealed FrameFields.valid

namespace SoftwareWorldFrame

abbrev scope (f : SoftwareWorldFrame) : WorldScope := f.1.scope

abbrev worldCut (f : SoftwareWorldFrame) : Option WorldCut := f.1.worldCut

def frameId (f : SoftwareWorldFrame) : Canon :=
  .ident "swf_" <| .ofList
    [.text "tiangong.world.software-frame-id.v1", .text f.scope.1.lifeId,
      f.scope.1.worldScopeHash, f.scope.1.principalScopeHash, .text f.1.workspace,
      .text f.1.repository, .text f.1.worktree, .text f.1.branch]

def frameRevisionHash (f : SoftwareWorldFrame) : Canon :=
  .sha256 <| .ofList
    [.text "tiangong.world.software-frame-revision.v1", f.frameId, .text f.1.commit,
      .text f.1.environment, f.1.time.canon, .option (fun c => c.1.cutSha256) f.worldCut]

/-- `_frame_ref`. -/
def ref (f : SoftwareWorldFrame) : WorldRecordRef :=
  ⟨"world_frame", f.frameId, none, f.frameRevisionHash⟩

end SoftwareWorldFrame

structure SparseWorldGraph where
  scope : WorldScope
  frameId : Canon
  frameRevisionHash : Canon
  entityById : Dict Canon WorldEntity
  relationById : Dict Canon WorldRelation
  tokenIndex : Finset (String × Canon)
  pathIndex : Finset (String × Canon)
  relationsByEntity : Finset (Canon × Canon)
  appliedGitDeltaIds : Finset Canon

namespace SparseWorldGraph

/-- The constructor. -/
def empty (frame : SoftwareWorldFrame) : SparseWorldGraph :=
  ⟨frame.scope, frame.frameId, frame.frameRevisionHash, ∅, ∅, ∅, ∅, ∅, ∅⟩

def requireFrame (g : SparseWorldGraph) (frame : SoftwareWorldFrame) :
    Except WorldStateError Unit := do
  rejectIf (g.scope.sameIdentity frame.scope = false) (.value "SCOPE_MISMATCH")
  rejectIf (g.frameId ≠ frame.frameId) (.value "SOFTWARE_WORLD_FRAME_MISMATCH")

def entities (g : SparseWorldGraph) : List WorldEntity := g.entityById.items.map Prod.snd

def relations (g : SparseWorldGraph) : List WorldRelation := g.relationById.items.map Prod.snd

/-- The references of the active entities. -/
def entityRefs (g : SparseWorldGraph) : List WorldRecordRef :=
  (g.entities.filter fun e => e.1.lifecycle = .active).map WorldEntity.ref

def relationRefs (g : SparseWorldGraph) : List WorldRecordRef := g.relations.map WorldRelation.ref

end SparseWorldGraph

end Tiangong
