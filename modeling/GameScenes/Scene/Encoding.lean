import GameScenes.Geometry.Encoding
import GameScenes.Scene.Artifact

/-!
# Scenes as Json

The members of every record stand in one fixed order; a component that an entity lacks is left
out.
-/

set_option autoImplicit false

namespace GameScenes

open Json

def Color.toJson (c : Color) : Json :=
  .object [("r", ofSingle c.red), ("g", ofSingle c.green), ("b", ofSingle c.blue),
    ("a", ofSingle c.alpha)]

def pixelsToJson (size : UInt32 × UInt32) : Json :=
  .array [ofNat size.1.toNat, ofNat size.2.toNat]

namespace Behavior

/-- A value under the name of its type. -/
def FieldValue.toJson : FieldValue → Json
  | int n => tagged "Int" (.number (.int n))
  | float x => tagged "Float" (ofDouble x)
  | bool b => tagged "Bool" (.bool b)
  | text s => tagged "Text" (.text s)
  | vector2 v => tagged "Vector2" v.toJson
  | vector3 v => tagged "Vector3" v.toJson
  | color c => tagged "Color" c.toJson
  | layerMask m => tagged "LayerMask" (ofNat m.toNat)
  | entity id => tagged "Entity" (ofNat id)
  | component id kind =>
      tagged "Component" (.object [("entity", ofNat id), ("kind", .text kind.name)])

def BindingSource.name : BindingSource → String
  | explicit => "Explicit"
  | autoWired => "AutoWired"

/-- An attached behavior with its fields. -/
def Instance.toJson (i : Instance) : Json :=
  .object
    [("module", .text i.module), ("name", .text i.name),
      ("fields", .object (i.fields.entries.map fun (name, binding) =>
        (name, .object [("value", binding.value.toJson), ("source", .text binding.source.name)])))]

end Behavior

namespace Tiles

def AtlasCell.toJson (c : AtlasCell) : Json :=
  .object [("col", ofNat c.col.toNat), ("row", ofNat c.row.toNat)]

def PaintedTile.toJson (t : PaintedTile) : Json :=
  .object
    [("x", .number (.int t.cell.x)), ("y", .number (.int t.cell.y)), ("tile", .text t.tile),
      ("atlas", t.atlas.toJson)]

def TileCollision.toJson : TileCollision → Json
  | none => .text "None"
  | simple cells => tagged "Simple" (.object [("cells", ofList Bounds.toJson cells)])
  | composite outlines =>
      tagged "Composite" (.object [("outlines", ofList (ofList Vector2.toJson) outlines)])

def TileLayer.toJson (l : TileLayer) : Json :=
  .object
    [("tileset", .text l.tileset), ("atlas_path", .text l.atlasPath),
      ("cell_size", l.cellSize.toJson), ("sorting_layer", .text l.sortingLayer),
      ("order_in_layer", .number (.int l.orderInLayer)),
      ("tiles", ofList PaintedTile.toJson l.tiles), ("collision", l.collision.toJson)]

end Tiles

namespace Scene

open Document (RectTransform)

/-- The place of an entity. -/
def LocalTransform.toJson (t : LocalTransform) : Json :=
  .object
    [("position", t.position.toJson), ("rotation_z_degrees", ofSingle t.rotation),
      ("scale", t.scale.toJson)]

def Visual.toJson (v : Visual) : Json :=
  .object
    [("asset_path", .text v.assetPath), ("pixel_size", pixelsToJson v.pixelSize),
      ("pixels_per_unit", ofSingle v.pixelsPerUnit), ("sorting_layer", .text v.sortingLayer),
      ("order_in_layer", .number (.int v.orderInLayer)), ("color", v.color.toJson),
      ("local_bounds", v.localBounds.toJson)]

def Body.toJson (b : Body) : Json :=
  .object
    [("kind", .text b.kind.name), ("gravity_scale", ofSingle b.gravityScale),
      ("freeze_rotation", .bool b.freezeRotation),
      ("freeze_position_x", .bool b.freezePositionX),
      ("freeze_position_y", .bool b.freezePositionY)]

/-- A form under its name. -/
def Shape.toJson : Shape → Json
  | box size => tagged "Box" (.object [("size", size.toJson)])
  | circle radius => tagged "Circle" (.object [("radius", ofSingle radius)])
  | polygon points => tagged "Polygon" (.object [("points", ofList Vector2.toJson points)])

def Collider.toJson (c : Collider) : Json :=
  .object
    [("shape", c.shape.toJson), ("offset", c.offset.toJson), ("is_trigger", .bool c.isTrigger)]

def Camera.toJson (c : Camera) : Json :=
  .object
    [("orthographic", .bool c.orthographic), ("size", ofSingle c.size),
      ("clear_color", ofOption Color.toJson c.clearColor), ("primary", .bool c.primary)]

def Canvas.toJson (c : Canvas) : Json :=
  .object
    [("mode", .text c.mode.name), ("reference_resolution", c.referenceResolution.toJson)]

/-- A rectangle relative to the parent's. -/
def rectToJson (r : RectTransform) : Json :=
  .object
    [("anchor_min", r.anchorMin.toJson), ("anchor_max", r.anchorMax.toJson),
      ("pivot", r.pivot.toJson), ("anchored_position", r.anchoredPosition.toJson),
      ("size_delta", r.sizeDelta.toJson)]

/-- The action of a button; its arguments are pairs. -/
def ButtonAction.toJson (a : ButtonAction) : Json :=
  .object
    [("command", .text a.command),
      ("args", ofList (fun (name, value) => .array [.text name, value.toJson]) a.args)]

/-- An element of the user interface. -/
def Widget.toJson (w : Widget) : Json :=
  .object
    [("kind", .text w.kind.name), ("rect", rectToJson w.rect), ("text", ofOption .text w.text),
      ("font_size", ofSingle w.fontSize), ("color", w.color.toJson),
      ("sprite", ofOption .text w.sprite), ("on_click", ofOption ButtonAction.toJson w.onClick)]

/-- A member that is left out when its list is empty. -/
def listMember? {α : Type} (name : String) (encode : α → Json) : List α → List (String × Json)
  | [] => []
  | values => [(name, ofList encode values)]

def Components.toJson (c : Components) : Json :=
  .object
    (member? "visual" Visual.toJson c.visual ++ member? "body" Body.toJson c.body ++
      listMember? "colliders" Collider.toJson c.colliders ++
      listMember? "behaviors" Behavior.Instance.toJson c.behaviors ++
      member? "camera" Camera.toJson c.camera ++ member? "canvas" Canvas.toJson c.canvas ++
      (if c.eventSystem then [("event_system", .bool true)] else []) ++
      member? "ui" Widget.toJson c.ui ++ member? "tile_layer" Tiles.TileLayer.toJson c.tileLayer)

def Entity.toJson (e : Entity) : Json :=
  .object
    ([("id", ofNat e.id), ("name", .text e.name)] ++ member? "source_id" .text e.sourceId ++
      [("tag", .text e.tag), ("layer", ofNat e.layer), ("parent", ofOption ofNat e.parent),
        ("children", ofList ofNat e.children), ("transform", e.transform.toJson),
        ("components", e.components.toJson)])

def Graph.toJson (g : Graph) : Json :=
  .object [("entities", ofList Entity.toJson g.entities.toList)]

/-- The roots of the user interface. -/
def UiRoots.toJson (r : UiRoots) : Json :=
  .object [("canvas", ofNat r.canvas), ("event_system", ofNat r.eventSystem)]

def Artifact.toJson (a : Artifact) : Json :=
  .object
    [("format_version", ofNat formatVersion), ("name", .text a.name),
      ("compiler_version", .text a.compilerVersion),
      ("source_hash_sha256_hex", .text a.sourceDigest), ("graph", a.graph.toJson),
      ("camera", ofOption ofNat a.camera), ("ui_roots", ofOption UiRoots.toJson a.uiRoots)]

end Scene

end GameScenes
