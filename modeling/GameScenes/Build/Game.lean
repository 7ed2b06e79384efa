import GameScenes.Asset.DiskStore
import GameScenes.Build.Report
import GameScenes.Build.Scene
import GameScenes.Digest.Sha256

/-!
# Compiling games

A game is compiled scene by scene into the folder of a project.  A document that is rejected, and
project files that cannot be used, end the run before any scene.  From then on a scene that cannot
be kept is given up and the run goes on; whether it is cancelled is asked before each scene.
-/

set_option autoImplicit false

namespace GameScenes.Build

open Behavior (Catalog Index builtinCatalog builtinCommands)
open Document (Game Rejection SceneEntry)
open Scene (Artifact ButtonAction)
open Storage (Disk DiskFault Place)

def currentVersion : String := "0.1.0"

/-- What a run is asked to do apart from its document. -/
structure Options where
  project : ProjectFolder
  /-- Modules, the most preferred one first, that settle which behavior a name means. -/
  precedence : List String
  /-- Further catalogs beside the built-in one. -/
  catalogs : List Catalog
  compilerVersion : String

/-- What a run finds around it: the assets that a disk holds, and whether the run is cancelled
before the scene at a position, when the store was asked for some candidates. -/
structure Surroundings where
  assets : Disk → AssetStore
  cancelled : Nat → List AssetCandidate → Bool

/-- Why a run ends without a report. -/
inductive CompileFault where
  | rejected (rejection : Rejection)
  | output (fault : OutputFault)
  | unreadDocument (path : String) (cause : DiskFault)

def CompileFault.message : CompileFault → String
  | rejected rejection => "spec rejected: " ++ rejection.message
  | output fault => fault.message
  | unreadDocument path cause => "failed to read spec file " ++ path ++ ": " ++ cause.message

/-- What a run leaves behind. -/
structure Outcome where
  result : Except CompileFault Report
  storage : Storage
  draws : Draws
  /-- The candidates that the store was asked for. -/
  asked : List AssetCandidate

/-! ## Scenes -/

/-- A run between two scenes. -/
structure Progress where
  context : Context
  storage : Storage
  /-- The paths that scenes were meant for so far. -/
  seen : List String
  saved : Array SavedScene
  aborted : Array AbortedScene

namespace Progress

def fault (p : Progress) (scene : String) (d : Diagnostic) : Progress :=
  { p with context := ((p.context.enterScene scene).record (d.withValue scene)).leaveScene }

/-- Gives a scene up. -/
def abort (p : Progress) (index : Nat) (name reason : String) : Progress :=
  { p.fault name (Diagnostic.error .sceneAborted reason) with
    aborted := p.aborted.push ⟨index, name, reason⟩ }

/-- Keeps the tables, after a scene was saved. -/
def keepTables (project : ProjectFolder) (p : Progress) (scene : String) : Progress :=
  match project.saveTables p.context.tables p.storage with
  | (.ok (), storage) => { p with storage }
  | (.error cause, storage) =>
      { p with storage }.fault scene (Diagnostic.error .outputFailed cause.message)

/-- Keeps a scene that was built. -/
def keepScene (project : ProjectFolder) (p : Progress) (index : Nat) (scene : String)
    (artifact : Artifact) : Progress :=
  match project.saveScene artifact p.storage with
  | (.ok saved, storage) =>
      { p with storage, saved := p.saved.push saved }.keepTables project scene
  | (.error cause, storage) =>
      ({ p with storage }.fault scene
        (Diagnostic.error .outputFailed cause.message)).abort index scene
          ("failed to write scene: " ++ cause.message)

end Progress

/-- What all scenes of a run have in common. -/
structure Plan where
  project : ProjectFolder
  surroundings : Surroundings
  tilesets : List Document.Tileset
  provenance : Provenance

namespace Plan

/-- Compiles a scene that is meant for a path of its own. -/
def compileNew (plan : Plan) (p : Progress) (index : Nat) (scene : Document.Scene)
    (actions : List (Option ButtonAction)) : Progress :=
  let context := { p.context with assets := plan.surroundings.assets p.storage.disk }
  let (context, artifact) := compileScene context scene plan.tilesets actions plan.provenance
  { p with context }.keepScene plan.project index scene.name artifact

/-- Compiles the scene at a position of the document. -/
def compileEntry (plan : Plan) (p : Progress) (index : Nat) (entry : SceneEntry)
    (actions : List (Option ButtonAction)) : Progress :=
  match entry with
  | .malformed fault => p.abort index fault.name fault.text
  | .parsed scene =>
      let path := SceneFile.relativePath scene.name
      if p.seen.contains path then
        (p.fault scene.name (Diagnostic.error .duplicateSceneName
          "an earlier scene already writes to the same output file")).abort index scene.name
            "duplicate scene name"
      else plan.compileNew { p with seen := path :: p.seen } index scene actions

/-- Compiles scenes from a position on; the last part says whether the run was cancelled. -/
def compileEntries (plan : Plan) :
    Progress → Nat → List SceneEntry → List (List (Option ButtonAction)) → Progress × Bool
  | p, _, [], _ => (p, false)
  | p, index, entry :: rest, actions =>
      if plan.surroundings.cancelled index p.context.asked then (p, true)
      else
        plan.compileEntries (plan.compileEntry p index entry (actions.head?.getD [])) (index + 1)
          rest actions.tail

end Plan

/-! ## Games -/

/-- The faults of the sections of a document. -/
def sectionDiagnostics (game : Game) : List Diagnostic :=
  game.sectionFaults.map fun fault =>
    (Diagnostic.warning .malformedSection fault.message).inField fault.path

/-- The context before the first scene, with the actions of all scenes. -/
def prepare (options : Options) (assets : AssetStore) (tables : Tables) (draws : Draws)
    (game : Game) : Context × List (List (Option ButtonAction)) :=
  let index := Index.ofCatalogs (builtinCatalog :: options.catalogs) options.precedence
  let context := Context.start tables draws index builtinCommands assets
    game.settings.pixelsPerUnit
  prepareActions ((context.applySettings game.settings).recordAll (sectionDiagnostics game))
    game.scenes

/-- Compiles a game whose project has these tables. -/
def compileScenes (options : Options) (surroundings : Surroundings) (digest : String)
    (tables : Tables) (draws : Draws) (storage : Storage) (game : Game) : Outcome :=
  let (context, actions) :=
    prepare options (surroundings.assets storage.disk) tables draws game
  let plan : Plan :=
    { project := options.project, surroundings, tilesets := game.tilesets
      provenance := ⟨options.compilerVersion, digest⟩ }
  let (p, cancelled) := plan.compileEntries ⟨context, storage, [], #[], #[]⟩ 0 game.scenes actions
  { result := .ok
      { title := game.title
        saved := p.saved.toList
        aborted := p.aborted.toList
        diagnostics := p.context.log.entries.toList
        cancelled }
    storage := p.storage
    draws := p.context.draws
    asked := p.context.asked }

/-- Compiles a document into a project. -/
def compileGame (options : Options) (surroundings : Surroundings) (draws : Draws)
    (storage : Storage) (raw : String) : Outcome :=
  let failed (fault : CompileFault) (storage : Storage) : Outcome :=
    ⟨.error fault, storage, draws, []⟩
  match Game.read raw with
  | .error rejection => failed (.rejected rejection) storage
  | .ok game =>
      match options.project.makeFolders storage with
      | (.error fault, storage) => failed (.output fault) storage
      | (.ok (), storage) =>
          match options.project.loadTables storage with
          | (.error fault, storage) => failed (.output fault) storage
          | (.ok tables, storage) =>
              compileScenes options surroundings (Sha256.hexDigest raw) tables draws storage game

/-- Compiles the document in a file with the assets of the disk; nothing cancels the run. -/
def compileGameFile (options : Options) (secondary : Option String) (draws : Draws)
    (storage : Storage) (path : String) : Outcome :=
  match storage.readText path with
  | (.error cause, storage) => ⟨.error (.unreadDocument path cause), storage, draws, []⟩
  | (.ok raw, storage) =>
      let folders : AssetFolders := ⟨options.project.root, secondary⟩
      compileGame options
        ⟨fun disk => folders.store disk storage.working, fun _ _ => false⟩ draws storage raw

end GameScenes.Build
