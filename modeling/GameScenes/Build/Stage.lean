/-!
# Stages of a scene

A scene passes through its stages in one order; an aborted scene passes no further ones.
-/

set_option autoImplicit false

namespace GameScenes

/-- How far a scene has come. -/
inductive SceneStage where
  | init
  | cameraApplied
  | backgroundApplied
  | uiRootApplied
  | entitiesPlaced
  | postAligned
  | tilemapsBuilt
  | uiCompiled
  | saved
  | aborted
  deriving DecidableEq, Repr

namespace SceneStage

def successor : SceneStage → Option SceneStage
  | init => some cameraApplied
  | cameraApplied => some backgroundApplied
  | backgroundApplied => some uiRootApplied
  | uiRootApplied => some entitiesPlaced
  | entitiesPlaced => some postAligned
  | postAligned => some tilemapsBuilt
  | tilemapsBuilt => some uiCompiled
  | uiCompiled => some saved
  | saved => none
  | aborted => none

def name : SceneStage → String
  | init => "Init"
  | cameraApplied => "CameraApplied"
  | backgroundApplied => "BackgroundApplied"
  | uiRootApplied => "UiRootApplied"
  | entitiesPlaced => "EntitiesPlaced"
  | postAligned => "PostAligned"
  | tilemapsBuilt => "TilemapsBuilt"
  | uiCompiled => "UiCompiled"
  | saved => "Saved"
  | aborted => "Aborted"

end SceneStage

end GameScenes
