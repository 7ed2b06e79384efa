import GameScenes.Proofs.Build.Cast
import GameScenes.Proofs.Scene.Extending
import GameScenes.Proofs.Scene.Resolving

/-!
# Building spares what is already built

Objects, elements of the user interface and tilemaps are built behind all entities that there are.
Whatever the graph looks like, they change nothing of these but the list of children of the parent
(`building_spares`); this holds for behaviors, too, which are attached to the new entity only.
-/

set_option autoImplicit false

namespace GameScenes

open Scene (Entity Graph)
open Scene.Graph (Extends Spares)

/-! ## Attaching behaviors -/

namespace Behavior

variable {g : Graph} {entity limit : EntityId}

theorem ensureGroundCheck_spares (inside : limit ≤ g.size) (behind : limit ≤ entity) :
    Graph.Spares limit g (ensureGroundCheck g entity).1 := by
  unfold ensureGroundCheck
  split
  · exact .refl limit g
  · dsimp only
    rw [Graph.spawn_id]
    have made : Graph.Spares limit g (g.spawn groundCheckName (some entity)).1 := by
      apply Scene.Graph.spares_spawn g groundCheckName inside
      rintro p same
      cases same
      exact behind
    refine made.trans (Scene.Graph.spares_modify ?_ _ inside)
    exact fun _ => rfl

theorem wireField_spares (layers : LayerTable) (inside : limit ≤ g.size)
    (behind : limit ≤ entity) (i : Instance) (schema : FieldSchema) :
    Graph.Spares limit g (wireField layers entity (g, i) schema).1 := by
  unfold wireField
  dsimp only
  split
  · exact .refl limit g
  · split
    · exact .refl limit g
    · exact .refl limit g
    · exact ensureGroundCheck_spares inside behind
    · exact ensureGroundCheck_spares inside behind

theorem wireFields_spares (layers : LayerTable) (schemas : List FieldSchema)
    (inside : limit ≤ g.size) (behind : limit ≤ entity) (i : Instance) :
    Graph.Spares limit g (schemas.foldl (wireField layers entity) (g, i)).1 := by
  induction schemas generalizing g i with
  | nil => exact .refl limit g
  | cons schema rest ih =>
      have first := wireField_spares layers inside behind i schema
      rw [List.foldl_cons]
      generalize wireField layers entity (g, i) schema = wired at first ⊢
      obtain ⟨grown, wiring⟩ := wired
      exact first.trans (ih (Nat.le_trans inside first.grows) wiring)

theorem addInstance_spares (g : Graph) (behind : limit ≤ entity) (i : Instance) :
    Graph.Spares limit g (addInstance g entity i) := by
  apply Scene.Graph.spares_modify _ g behind
  exact fun _ => rfl

theorem attachOne_spares (index : Index) (layers : LayerTable) (subject : String)
    (inside : limit ≤ g.size) (behind : limit ≤ entity) (binding : Document.Binding) :
    Graph.Spares limit g (attachOne index layers entity subject g binding).1 := by
  unfold attachOne
  cases index.lookup binding.name with
  | error fault => exact .refl limit g
  | ok registered =>
      dsimp only
      have wiring := wireFields_spares layers registered.descriptor.fields inside behind
        (bindExplicit ⟨g, layers, entity, subject⟩ registered.descriptor
          ⟨registered.module, registered.descriptor.name, Dictionary.empty⟩
          binding.parameters).1
      exact wiring.trans (addInstance_spares _ behind _)

/-- Behaviors that are attached to an entity change nothing of the entities before it. -/
theorem attach_spares (index : Index) (layers : LayerTable) (inside : limit ≤ g.size)
    (behind : limit ≤ entity) (bindings : List Document.Binding) :
    Graph.Spares limit g (attach index layers g entity bindings).1 := by
  unfold attach
  extract_lets subject
  clear_value subject
  induction bindings generalizing g with
  | nil => exact .refl limit g
  | cons binding rest ih =>
      have first := attachOne_spares index layers subject inside behind binding
      unfold attachEach
      exact first.trans (ih (Nat.le_trans inside first.grows))

end Behavior

/-! ## Building -/

namespace Build

open Behavior (Index)
open Document (Element Object Tilemap Tileset)
open Scene (ButtonAction Visual)

variable {g : Graph}

/-- The parent that an object names among the entities of a graph. -/
def parentOf? (g : Graph) (spec : Object) : Option EntityId :=
  (spec.parent.filter fun hint => !hint.isBlank).bind fun hint =>
    (g.resolve? none hint).map (·.entity)

theorem findParent_parentOf? (ctx : Context) (g : Graph) (spec : Object) (name : String) :
    (findParent ctx g spec name).2 = parentOf? g spec := by
  unfold findParent parentOf?
  split
  · next none_ =>
      rw [none_]
      rfl
  · next hint named =>
      rw [named, Option.bind_some]
      cases g.resolve? none hint <;> rfl

theorem lt_of_parentOf? (forest : g.Forest) {spec : Object} {p : EntityId}
    (named : parentOf? g spec = some p) : p < g.size := by
  obtain ⟨hint, -, resolved⟩ := Option.bind_eq_some_iff.mp named
  obtain ⟨resolution, found, rfl⟩ := Option.map_eq_some_iff.mp resolved
  obtain ⟨-, raw, -, -, finds⟩ := (Scene.Graph.resolve?_eq_some_iff forest).mp found
  exact finds.lt_size

/-- What is built is a new entity with fields of its own and with behaviors. -/
theorem extends_filled (g : Graph) (name : String) (wanted : Option EntityId)
    {fill : Entity → Entity} (parent : ∀ e, (fill e).parent = e.parent) (index : Index)
    (layers : LayerTable) (bindings : List Document.Binding) :
    g.Extends (Behavior.attach index layers ((g.spawn name wanted).1.modify g.size fill) g.size
      bindings).1 g.size wanted := by
  have extended := Scene.Graph.extends_spawn g name wanted
  have filled := Scene.Graph.spares_modify parent (g.spawn name wanted).1 (Nat.le_refl g.size)
  have inside : g.size ≤ ((g.spawn name wanted).1.modify g.size fill).size :=
    Nat.le_trans (Nat.le_of_lt extended.made) filled.grows
  exact (extended.later filled).later
    (Behavior.attach_spares index layers inside (Nat.le_refl g.size) bindings)

theorem buildEntity_extends (ctx : Context) (g : Graph) (spec : Object) :
    g.Extends (buildEntity ctx g spec).2.1 (buildEntity ctx g spec).2.2 (parentOf? g spec) := by
  rw [buildEntity_placed, findParent_parentOf?]
  unfold placeEntity
  dsimp only
  rw [Graph.spawn_id]
  apply extends_filled
  exact fun _ => rfl

theorem buildUiElement_extends (ctx : Context) (g : Graph) (canvas : EntityId) (spec : Element)
    (action : Option ButtonAction) :
    g.Extends (buildUiElement ctx g canvas spec action).2.1
      (buildUiElement ctx g canvas spec action).2.2 (some canvas) := by
  rw [buildUiElement_placed]
  unfold placeElement
  dsimp only
  rw [Graph.spawn_id]
  apply extends_filled
  exact fun _ => rfl

/-- What is built for a tilemap: nothing, or a layer below the grid that there is, or else behind and
below a new one. -/
def TilemapStep.Spares (g : Graph) (grid : Option EntityId) (step : TilemapStep) : Prop :=
  match step.layer, grid with
  | none, grid => step.graph = g ∧ step.grid = grid
  | some layer, some root =>
      step.grid = some root ∧ layer = g.size ∧ g.Extends step.graph layer (some root)
  | some layer, none =>
      step.grid = some g.size ∧ layer = g.size + 1 ∧ g.Extends step.graph layer (some g.size)

theorem paintTilemap_extends (ctx : Context) (g : Graph) (root : EntityId) (spec : Tilemap)
    (name : String) (asset : ImportedAsset) (sliced : Tiles.SlicedAtlas) :
    (paintTilemap ctx g (some root) spec name asset sliced).grid = some root ∧
      (paintTilemap ctx g (some root) spec name asset sliced).layer = some g.size ∧
      g.Extends (paintTilemap ctx g (some root) spec name asset sliced).graph g.size
        (some root) := by
  unfold paintTilemap
  extract_lets atlas painted faulted cellSize
  rw [Context.registerSortingLayer_pair faulted]
  dsimp only [ensureGrid]
  rw [Graph.spawn_id]
  refine ⟨rfl, rfl, (Scene.Graph.extends_spawn g name (some root)).later ?_⟩
  apply Scene.Graph.spares_modify _ _ (Nat.le_refl _)
  exact fun _ => rfl

theorem buildTilemap_spares (ctx : Context) (g : Graph) (grid : Option EntityId) (spec : Tilemap)
    (index : Nat) (tilesets : List Tileset) :
    (buildTilemap ctx g grid spec index tilesets).Spares g grid := by
  unfold TilemapStep.Spares
  rcases buildTilemap_cases ctx g grid spec index tilesets with
    ⟨graph, same, layer⟩ | ⟨imported, asset, sliced, painted⟩
  · rw [layer]
    exact ⟨graph, same⟩
  · rw [painted]
    cases grid with
    | some root =>
        obtain ⟨below, made, extended⟩ :=
          paintTilemap_extends imported g root spec (layerName spec index) asset sliced
        rw [made]
        exact ⟨below, rfl, extended⟩
    | none =>
        obtain ⟨below, made, extended⟩ := paintTilemap_extends imported (g.spawn gridName none).1
          g.size spec (layerName spec index) asset sliced
        rw [Graph.size_spawn] at made extended
        rw [paintTilemap_none, made]
        exact ⟨below, rfl, extended.after_root⟩

/-- Whatever is built over whatever graph, an entity that was there before is the same in every
field, except that the new entity comes last among the children of its parent.  This is the one that
was asked for, if the graph is a forest and it exists. -/
theorem building_spares (ctx : Context) (g : Graph) :
    (∀ spec, g.Extends (buildEntity ctx g spec).2.1 (buildEntity ctx g spec).2.2
        (parentOf? g spec) ∧
      (g.Forest → ∀ p, parentOf? g spec = some p → p < g.size)) ∧
    (∀ canvas spec action, g.Extends (buildUiElement ctx g canvas spec action).2.1
      (buildUiElement ctx g canvas spec action).2.2 (some canvas)) ∧
    ∀ grid spec index tilesets,
      (buildTilemap ctx g grid spec index tilesets).Spares g grid := by
  refine ⟨?_, ?_, ?_⟩
  · intro spec
    exact ⟨buildEntity_extends ctx g spec, fun forest p named => lt_of_parentOf? forest named⟩
  · intro canvas spec action
    exact buildUiElement_extends ctx g canvas spec action
  · intro grid spec index tilesets
    exact buildTilemap_spares ctx g grid spec index tilesets

end Build

end GameScenes
