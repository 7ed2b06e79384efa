import GameScenes.Asset.Import
import GameScenes.Behavior.Attachment
import GameScenes.Behavior.Command
import GameScenes.Document.Scene

/-!
# The context of a run

What the scenes of one run share: the tables of the project, the assets imported so far, the
behaviors and commands that documents may name, and the faults recorded so far.
-/

set_option autoImplicit false

namespace GameScenes.Build

open Behavior (CommandTable Index)

/-- The state that the scenes of a run share. -/
structure Context where
  tables : Tables
  draws : Draws
  imports : ImportCache
  /-- The candidates that the store was asked for, in order. -/
  asked : List AssetCandidate
  behaviors : Index
  commands : CommandTable
  log : DiagnosticLog
  pixelsPerUnit : Float32
  assets : AssetStore

namespace Context

def start (tables : Tables) (draws : Draws) (behaviors : Index) (commands : CommandTable)
    (assets : AssetStore) (pixelsPerUnit : Float32) : Context :=
  { tables, draws, imports := ImportCache.empty, asked := [], behaviors, commands,
    log := DiagnosticLog.empty, pixelsPerUnit, assets }

/-- A context with one more fault. -/
def record (ctx : Context) (d : Diagnostic) : Context := { ctx with log := ctx.log.push d }

/-- A context with more faults. -/
def recordAll (ctx : Context) (ds : List Diagnostic) : Context :=
  { ctx with log := ctx.log.pushAll ds }

/-- A context that works on a scene from now on. -/
def enterScene (ctx : Context) (scene : String) : Context :=
  { ctx with log := ctx.log.enterScene scene }

def leaveScene (ctx : Context) : Context := { ctx with log := ctx.log.leaveScene }

/-- Puts a tag into the table, without the blanks around it. -/
def registerTag (ctx : Context) (raw : String) : Context × String :=
  let tag := Text.trim raw
  let (tags, _) := ctx.tables.tags.register tag
  ({ ctx with tables := { ctx.tables with tags } }, tag)

/-- Puts a layer into the table, without the blanks around it; a full table is a fault of the
subject. -/
def registerLayer (ctx : Context) (raw subject : String) : Context × Option Nat :=
  let layer := Text.trim raw
  match ctx.tables.layers.register layer with
  | (some (index, _), layers) => ({ ctx with tables := { ctx.tables with layers } }, some index)
  | (none, _) =>
      (ctx.record ((((Diagnostic.warning .layerCapacityExceeded
        (LayerTable.capacityMessage layer)).about subject).inField "layer").withValue layer),
        none)

/-- Puts a sorting layer into the table, without the blanks around it; a blank name stands for the
usual sorting layer. -/
def registerSortingLayer (ctx : Context) (raw : String) : Context × String :=
  let name := Text.trim raw
  if name = "" then (ctx, SortingLayerTable.usualName)
  else
    let (sortingLayers, draws) := ctx.tables.sortingLayers.register ctx.draws name
    ({ ctx with tables := { ctx.tables with sortingLayers }, draws }, name)

/-- The kind of fault that an unusable asset is. -/
def assetFaultCode : AssetFault → DiagnosticCode
  | .unreadable _ _ => .assetUnreadable
  | .notFound _ _ => .assetNotFound
  | .invalidPath _ _ => .assetNotFound

/-- Imports an asset; one that cannot be used is a fault of a field of the subject. -/
def importAsset (ctx : Context) (raw subject field : String) : Context × Option ImportedAsset :=
  let step := ctx.imports.importAsset ctx.assets raw
  let next := { ctx with imports := step.cache, asked := ctx.asked ++ step.asked }
  match step.result with
  | .ok asset => (next, some asset)
  | .error fault =>
      (next.record ((((Diagnostic.warning (assetFaultCode fault) fault.message).about
        subject).inField field).withValue raw), none)

/-- The color that a text writes; an unusable text is a fault and stands for white. -/
def readColor (ctx : Context) (raw : Option String) (subject field : String) : Context × Color :=
  match raw with
  | none => (ctx, Color.white)
  | some s =>
      match Color.ofText? s with
      | some color => (ctx, color)
      | none =>
          (ctx.record ((((Diagnostic.warning .invalidColor
            "expected #RRGGBB or #RRGGBBAA").about subject).inField field).withValue s),
            Color.white)

def named (names : List String) : List String := names.filter fun n => !Text.isBlankText n

/-- Puts what the settings of a document list into the tables. -/
def applySettings (ctx : Context) (settings : Document.Settings) : Context :=
  let sized := { ctx with pixelsPerUnit := settings.pixelsPerUnit }
  let tagged := (named settings.tags).foldl (fun c tag => (c.registerTag tag).1) sized
  let layered := (named settings.layers).foldl
    (fun c layer => (c.registerLayer layer "settings").1) tagged
  (named settings.sortingLayers).foldl (fun c name => (c.registerSortingLayer name).1) layered

end Context

end GameScenes.Build
