import GameScenes.Build.Scene
import GameScenes.Proofs.Behavior.Attaching

/-!
# Roles of entities

Every entity of a scene is made for something: for the scene itself, for a part of the document or
as a place at which another entity checks for ground.  `Gains` says how a graph grows by entities
of given roles while everything that was there stays as it is.
-/

set_option autoImplicit false

namespace GameScenes.Build

open Behavior (Attaches Index Instance IsGroundCheck dressed)
open Document (Binding Element Object Tilemap)
open Scene (Components Entity Graph)

/-- What an entity was made for. -/
inductive Role where
  | camera
  | canvas
  | eventSystem
  | object (spec : Object)
  | groundCheck (owner : EntityId)
  | grid
  | layer (root : EntityId) (index : Nat) (spec : Tilemap)
  | element (root : EntityId) (spec : Element)

namespace Role

def object? : Role → Option Object
  | object spec => some spec
  | _ => none

/-- The position of a tilemap in its scene, and the tilemap. -/
def layer? : Role → Option (Nat × Tilemap)
  | layer _ index spec => some (index, spec)
  | _ => none

def element? : Role → Option Element
  | element _ spec => some spec
  | _ => none

def isCamera : Role → Bool
  | camera => true
  | _ => false

def isCanvas : Role → Bool
  | canvas => true
  | _ => false

def isEventSystem : Role → Bool
  | eventSystem => true
  | _ => false

def isGrid : Role → Bool
  | grid => true
  | _ => false

/-- Whether behaviors may be attached to an entity. -/
def Wears (role : Role) : Prop := role.object?.isSome ∨ role.element?.isSome

/-- The name of an entity. -/
def title : Role → String
  | camera => mainCameraName
  | canvas => canvasName
  | eventSystem => eventSystemName
  | object spec => Text.trim spec.displayName
  | groundCheck _ => Behavior.groundCheckName
  | grid => gridName
  | layer _ index spec => layerName spec index
  | element _ spec => Text.trim spec.displayName

/-- What the parent of an entity is; an object may have any parent that it names. -/
def Below : Role → Option EntityId → Prop
  | object _, _ => True
  | groundCheck owner, parent => parent = some owner
  | layer root _ _, parent => parent = some root
  | element root _, parent => parent = some root
  | _, parent => parent = none

/-- What else an entity shows of its role. -/
def Shows : Role → Entity → Prop
  | object spec, e => e.sourceId = (nonBlank? spec.id).map Text.trim ∧
      e.components.body = (spec.physics.bind (·.rigidbody)).map buildBody
  | groundCheck _, e => e.components = Components.none
  | grid, e => e.components = Components.none
  | layer _ _ spec, e =>
      e.components.tileLayer.map (·.orderInLayer) = some spec.orderInLayer
  | element _ spec, e => e.components.ui.map (·.kind) = some spec.kind ∧
      e.components.ui.map (·.rect) = some spec.rectTransform
  | _, _ => True

/-- That an entity is what its role makes of it. -/
structure Describes (role : Role) (e : Entity) : Prop where
  name : e.name = role.title
  parent : role.Below e.parent
  camera : e.components.camera.isSome = role.isCamera
  canvas : e.components.canvas.isSome = role.isCanvas
  eventSystem : e.components.eventSystem = role.isEventSystem
  ui : e.components.ui.isSome = role.element?.isSome
  tileLayer : e.components.tileLayer.isSome = role.layer?.isSome
  shows : role.Shows e

variable {role : Role} {e e' : Entity}

/-- Neither children nor behaviors matter. -/
theorem Describes.of_unlinked (h : role.Describes e) (same : e'.unlinked = e.unlinked) :
    role.Describes e' := by
  rw [Entity.eq_of_unlinked same]
  refine ⟨h.name, h.parent, h.camera, h.canvas, h.eventSystem, h.ui, h.tileLayer, ?_⟩
  cases role <;> exact h.shows

theorem Describes.of_dressed (h : role.Describes e) (wears : role.Wears)
    {instances : List Instance} (same : e'.unlinked = dressed instances e) :
    role.Describes e' := by
  have dress : role.Describes (dressed instances e) := by
    refine ⟨h.name, h.parent, h.camera, h.canvas, h.eventSystem, h.ui, h.tileLayer, ?_⟩
    cases role with
    | object spec => exact h.shows
    | element root spec => exact h.shows
    | _ => simp [Wears, object?, element?] at wears
  exact dress.of_unlinked same

theorem describes_groundCheck {owner : EntityId} (check : IsGroundCheck owner e) :
    (groundCheck owner).Describes e where
  name := check.name
  parent := check.parent
  camera := by simp [check.bare, Components.none, isCamera]
  canvas := by simp [check.bare, Components.none, isCanvas]
  eventSystem := by simp [check.bare, Components.none, isEventSystem]
  ui := by simp [check.bare, Components.none, element?]
  tileLayer := by simp [check.bare, Components.none, layer?]
  shows := check.bare

/-! ## Credits -/

/-- The entities of roles that are picked, from an identifier on. -/
def credits {α : Type} (pick : Role → Option α) (start : EntityId) (roles : List Role) :
    List (EntityId × α) :=
  (roles.zipIdx start).filterMap fun entry => (pick entry.1).map (entry.2, ·)

section

variable {α : Type} (pick : Role → Option α) (start : EntityId)

theorem credits_append (xs ys : List Role) :
    credits pick start (xs ++ ys) =
      credits pick start xs ++ credits pick (start + xs.length) ys := by
  rw [credits, List.zipIdx_append, List.filterMap_append]
  rfl

theorem credits_of_none {roles : List Role} (none : ∀ role ∈ roles, pick role = none) :
    credits pick start roles = [] := by
  rw [credits, List.filterMap_eq_nil_iff]
  intro entry member
  rw [none entry.1 (List.fst_mem_of_mem_zipIdx member), Option.map_none]

theorem credits_cons_of_some {role : Role} {a : α} (picked : pick role = some a)
    (roles : List Role) :
    credits pick start (role :: roles) = (start, a) :: credits pick (start + 1) roles := by
  simp [credits, List.zipIdx_cons, picked]

theorem mem_credits {roles : List Role} {id : EntityId} {a : α} :
    (id, a) ∈ credits pick 0 roles ↔ ∃ role, roles[id]? = some role ∧ pick role = some a := by
  simp only [credits, List.mem_filterMap, Prod.exists, List.mk_mem_zipIdx_iff_getElem?,
    Option.map_eq_some_iff, Prod.mk.injEq]
  constructor
  · rintro ⟨role, i, there, found, picked, rfl, rfl⟩
    exact ⟨role, there, picked⟩
  · rintro ⟨role, there, picked⟩
    exact ⟨role, id, there, a, picked, rfl, rfl⟩

/-- Entities are credited in the order of their creation. -/
theorem credits_pairwise (roles : List Role) :
    ((credits pick start roles).map (·.1)).Pairwise (· < ·) := by
  have counted : (roles.zipIdx start).Pairwise fun a b => a.2 < b.2 := by
    rw [← List.pairwise_map (f := Prod.snd) (R := (· < ·)), List.zipIdx_map_snd]
    exact List.pairwise_lt_range'
  rw [List.pairwise_map]
  refine counted.filterMap _ ?_
  intro a b before x first y second
  obtain ⟨_, -, rfl⟩ := Option.map_eq_some_iff.mp first
  obtain ⟨_, -, rfl⟩ := Option.map_eq_some_iff.mp second
  exact before

/-- Ground checks get no credit. -/
theorem credits_checked {role : Role} {a : α} (picked : pick role = some a) {owner : EntityId}
    (free : pick (.groundCheck owner) = none) (checks : Nat) :
    credits pick start (role :: List.replicate checks (.groundCheck owner)) = [(start, a)] := by
  rw [credits_cons_of_some pick start picked, credits_of_none]
  intro other member
  rw [List.eq_of_mem_replicate member, free]

end

/-- The entities whose roles have a property. -/
def players (holds : Role → Bool) (roles : List Role) : List EntityId :=
  (credits (fun role => if holds role then some role else none) 0 roles).map (·.1)

theorem mem_players {holds : Role → Bool} {roles : List Role} {id : EntityId} :
    id ∈ players holds roles ↔ ∃ role, roles[id]? = some role ∧ holds role = true := by
  simp [players, mem_credits]

theorem mem_players_isGrid {roles : List Role} {id : EntityId} :
    id ∈ players isGrid roles ↔ roles[id]? = some .grid := by
  rw [mem_players]
  constructor
  · rintro ⟨role, there, holds⟩
    cases role with
    | grid => exact there
    | _ => cases holds
  · intro there
    exact ⟨.grid, there, rfl⟩

end Role

/-! ## Growing graphs -/

/-- That a graph grows by entities of these roles, and is otherwise the same but for the lists of
children. -/
structure Gains (g h : Graph) (roles : List Role) : Prop where
  orderly : h.Orderly
  size : h.size = g.size + roles.length
  kept : ∀ i, i < g.size → (h.get? i).map Entity.unlinked = (g.get? i).map Entity.unlinked
  described : ∀ role i, (role, i) ∈ roles.zipIdx g.size →
    ∃ e, h.get? i = some e ∧ role.Describes e
  owned : ∀ owner i, (.groundCheck owner, i) ∈ roles.zipIdx g.size →
    ∃ role : Role, (role, owner) ∈ roles.zipIdx g.size ∧ role.Wears

namespace Gains

variable {g h k : Graph} {xs ys : List Role}

theorem refl (orderly : g.Orderly) : Gains g g [] where
  orderly := orderly
  size := rfl
  kept _ _ := rfl
  described := by simp
  owned := by simp

theorem trans (first : Gains g h xs) (second : Gains h k ys) : Gains g k (xs ++ ys) where
  orderly := second.orderly
  size := by rw [second.size, first.size, List.length_append, Nat.add_assoc]
  kept i old := by
    have early : i < h.size := by
      rw [first.size]
      exact Nat.lt_add_right _ old
    rw [second.kept i early, first.kept i old]
  described role i member := by
    rw [List.zipIdx_append, ← first.size] at member
    rcases List.mem_append.mp member with early | late
    · obtain ⟨e, there, described⟩ := first.described role i early
      have same := second.kept i (Graph.lt_size there)
      rw [there] at same
      obtain ⟨later, found, equal⟩ := Option.map_eq_some_iff.mp same
      exact ⟨later, found, described.of_unlinked equal⟩
    · exact second.described role i late
  owned owner i member := by
    rw [List.zipIdx_append, ← first.size] at member ⊢
    rcases List.mem_append.mp member with early | late
    · obtain ⟨role, there, wears⟩ := first.owned owner i early
      exact ⟨role, List.mem_append_left _ there, wears⟩
    · obtain ⟨role, there, wears⟩ := second.owned owner i late
      exact ⟨role, List.mem_append_right _ there, wears⟩

/-- A new entity. -/
theorem add (orderly : g.Orderly) (role : Role) (name : String) {parent : Option EntityId}
    (valid : ∀ p, parent = some p → p < g.size) {fill : Entity → Entity}
    (links : ∀ e, (fill e).links = e.links)
    (described : role.Describes (fill { Entity.blank g.size name with parent }))
    (free : ∀ owner, role ≠ .groundCheck owner) :
    Gains g (g.add name parent fill) [role] where
  orderly := orderly.add name valid links
  size := Graph.size_add g name parent fill
  kept i old := Graph.unlinked_add g name parent fill (Nat.ne_of_lt old)
  described other i member := by
    rw [List.zipIdx_singleton, List.mem_singleton] at member
    cases member
    exact ⟨_, Graph.get?_add_new orderly name valid fill, described⟩
  owned owner i member := by
    rw [List.zipIdx_singleton, List.mem_singleton] at member
    cases member
    exact absurd rfl (free owner)

/-- A new entity to which behaviors are attached gets ground checks of its own at most. -/
theorem attach {role : Role} (made : Gains g h [role]) (wears : role.Wears)
    {instances : List Instance} (attached : Attaches g.size h k instances) :
    ∃ checks, Gains g k (role :: List.replicate checks (.groundCheck g.size)) := by
  have grown : h.size = g.size + 1 := made.size
  have counted : g.size + 1 + (k.size - h.size) = k.size := by
    have grows := attached.grows
    omega
  -- all that attaching adds behind the new entity are ground checks below it
  have check : ∀ {other : Role} {i : EntityId}, (other, i) ∈
        (List.replicate (k.size - h.size) (Role.groundCheck g.size)).zipIdx (g.size + 1) →
      other = .groundCheck g.size ∧ h.size ≤ i ∧ i < k.size := by
    intro other i member
    obtain ⟨low, high, -⟩ := List.mem_zipIdx member
    rw [List.length_replicate, counted] at high
    exact ⟨List.eq_of_mem_replicate (List.fst_mem_of_mem_zipIdx member), grown ▸ low, high⟩
  refine ⟨k.size - h.size, attached.orderly made.orderly, ?_, ?_, ?_, ?_⟩
  · rw [List.length_cons, List.length_replicate]
    omega
  · intro i old
    rw [attached.others i (grown ▸ Nat.lt_succ_of_lt old) (Nat.ne_of_lt old), made.kept i old]
  · intro other i member
    rw [List.zipIdx_cons] at member
    rcases List.mem_cons.mp member with same | later
    · cases same
      obtain ⟨e, there, described⟩ := made.described role g.size (by simp)
      have own := attached.own
      rw [there] at own
      obtain ⟨worn, found, equal⟩ := Option.map_eq_some_iff.mp own
      exact ⟨worn, found, described.of_dressed wears equal⟩
    · obtain ⟨rfl, low, high⟩ := check later
      obtain ⟨e, found⟩ := Graph.exists_of_lt high
      exact ⟨e, found, Role.describes_groundCheck (attached.checks i e low found)⟩
  · intro owner i member
    rw [List.zipIdx_cons] at member ⊢
    refine ⟨role, ?_, wears⟩
    rcases List.mem_cons.mp member with same | later
    · cases same
      simp [Role.Wears, Role.object?, Role.element?] at wears
    · obtain ⟨same, -, -⟩ := check later
      cases same
      exact List.mem_cons_self ..

/-- A new entity with its behaviors. -/
theorem addWearing (orderly : g.Orderly) (role : Role) (wears : role.Wears) (name : String)
    {parent : Option EntityId} (valid : ∀ p, parent = some p → p < g.size)
    {fill : Entity → Entity} (links : ∀ e, (fill e).links = e.links)
    (described : role.Describes (fill { Entity.blank g.size name with parent }))
    (behaviors : Index) (layers : LayerTable) (scripts : List Binding) :
    ∃ checks, Gains g (Behavior.attach behaviors layers (g.add name parent fill) g.size scripts).1
      (role :: List.replicate checks (.groundCheck g.size)) := by
  have free : ∀ owner, role ≠ .groundCheck owner := by
    rintro owner rfl
    simp [Role.Wears, Role.object?, Role.element?] at wears
  have made := Gains.add orderly role name valid links described free
  obtain ⟨instances, attached⟩ := Behavior.attach_attaches behaviors layers made.orderly.forest
    (Graph.lt_size_add ..) scripts
  exact made.attach wears attached

end Gains

end GameScenes.Build
