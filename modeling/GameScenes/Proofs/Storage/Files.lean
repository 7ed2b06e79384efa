import GameScenes.Storage.Access

/-!
# What steps leave alone

A step changes the files at the places that it touches and no others, and no step takes a folder
away.  Whatever a run of steps does is told by the places that it may touch (`Keeps`); saving a
file touches the file and its draft, and the file only when it succeeds.
-/

set_option autoImplicit false

namespace GameScenes.Storage

def Disk.fileAt? (disk : Disk) (place : Place) : Option ByteArray :=
  match disk.get? place with
  | some (.file bytes) => some bytes
  | _ => none

/-- The places whose files a step may change. -/
def FileStep.touches : FileStep → List Place
  | makeFolder _ => []
  | read _ => []
  | create place => [place]
  | write place _ => [place]
  | flush _ => []
  | rename source target => [source, target]
  | remove place => [place]

/-- The places whose files a step may change although it does not happen. -/
def FileStep.spoils : FileStep → List Place
  | write place _ => [place]
  | _ => []

namespace Disk

theorem get?_root (disk : Disk) : disk.get? [] = some .folder := rfl

theorem get?_put_of_ne (disk : Disk) (place : Place) (entry : Entry) (other : Place)
    (apart : other ≠ place) : (disk.put place entry).get? other = disk.get? other := by
  by_cases root : other = []
  · simp [root, get?_root]
  · rw [get?_put disk place entry other root, if_neg apart]

theorem get?_put_self (disk : Disk) (place : Place) (entry : Entry) (below : place ≠ []) :
    (disk.put place entry).get? place = some entry := by
  rw [get?_put disk place entry place below, if_pos rfl]

theorem get?_erase_of_ne (disk : Disk) (place other : Place) (apart : other ≠ place) :
    (disk.erase place).get? other = disk.get? other := by
  by_cases root : other = []
  · simp [root, get?_root]
  · rw [get?_erase disk place other root, if_neg apart]

theorem get?_erase_self (disk : Disk) (place : Place) (below : place ≠ []) :
    (disk.erase place).get? place = none := by
  rw [get?_erase disk place place below, if_pos rfl]

/-- A folder is not made by putting a file. -/
theorem get?_of_put_file {disk : Disk} {place other : Place} {bytes : ByteArray}
    (folder : (disk.put place (.file bytes)).get? other = some .folder) :
    disk.get? other = some .folder := by
  by_cases same : other = place
  · subst same
    by_cases root : other = []
    · simp [root, get?_root]
    · simp [get?_put_self disk other _ root] at folder
  · rwa [get?_put_of_ne disk place _ other same] at folder

/-- A folder is not made by erasing. -/
theorem get?_of_erase {disk : Disk} {place other : Place}
    (folder : (disk.erase place).get? other = some .folder) :
    disk.get? other = some .folder := by
  by_cases same : other = place
  · subst same
    by_cases root : other = []
    · simp [root, get?_root]
    · simp [get?_erase_self disk other root] at folder
  · rwa [get?_erase_of_ne disk place other same] at folder

theorem fileAt?_congr {disk next : Disk} {place : Place}
    (same : next.get? place = disk.get? place) : next.fileAt? place = disk.fileAt? place := by
  simp only [fileAt?, same]

theorem fileAt?_put_self (disk : Disk) (place : Place) (bytes : ByteArray) (below : place ≠ []) :
    (disk.put place (.file bytes)).fileAt? place = some bytes := by
  simp only [fileAt?, get?_put_self disk place _ below]

/-- Where there is a file there is content, and nowhere else. -/
theorem content_eq_ok_iff (disk : Disk) (place : Place) (bytes : ByteArray) :
    disk.content place = .ok bytes ↔ disk.get? place = some (.file bytes) := by
  unfold content
  cases disk.get? place with
  | none => simp
  | some entry => cases entry <;> simp

theorem fileAt?_eq_some_iff (disk : Disk) (place : Place) (bytes : ByteArray) :
    disk.fileAt? place = some bytes ↔ disk.get? place = some (.file bytes) := by
  unfold fileAt?
  cases disk.get? place with
  | none => simp
  | some entry => cases entry <;> simp

theorem map_content_eq_ok {disk next after : Disk} {place : Place}
    (happened : ((disk.content place).map fun _ => next) = .ok after) :
    after = next ∧ ∃ bytes, disk.get? place = some (.file bytes) := by
  cases content : disk.content place with
  | error fault => simp [content, Except.map] at happened
  | ok bytes =>
      simp only [content, Except.map, Except.ok.injEq] at happened
      exact ⟨happened.symm, bytes, (content_eq_ok_iff disk place bytes).mp content⟩

end Disk

/-! ## What a single step does -/

/-- All that a step which happens can have done. -/
inductive Disk.Change (disk : Disk) : FileStep → Disk → Prop where
  | makeFolder (place : Place) (room : disk.requireRoom place = .ok ())
      (free : disk.get? place = none) : Change disk (.makeFolder place) (disk.put place .folder)
  | read (place : Place) (bytes : ByteArray) (there : disk.get? place = some (.file bytes)) :
      Change disk (.read place) disk
  | create (place : Place) (room : disk.requireRoom place = .ok ())
      (free : disk.get? place ≠ some .folder) :
      Change disk (.create place) (disk.put place (.file ByteArray.empty))
  | write (place : Place) (content bytes : ByteArray)
      (there : disk.get? place = some (.file bytes)) :
      Change disk (.write place content) (disk.put place (.file content))
  | flush (place : Place) (bytes : ByteArray) (there : disk.get? place = some (.file bytes)) :
      Change disk (.flush place) disk
  | rename (source target : Place) (bytes : ByteArray)
      (there : disk.get? source = some (.file bytes)) (room : disk.requireRoom target = .ok ())
      (free : disk.get? target ≠ some .folder) :
      Change disk (.rename source target) ((disk.erase source).put target (.file bytes))
  | remove (place : Place) (bytes : ByteArray) (there : disk.get? place = some (.file bytes)) :
      Change disk (.remove place) (disk.erase place)

theorem Disk.change_of_after {disk next : Disk} {step : FileStep}
    (happened : disk.after step = .ok next) : disk.Change step next := by
  cases step with
  | makeFolder place =>
      simp only [after] at happened
      split at happened
      · simp at happened
      next room =>
        split at happened
        next free =>
          cases happened
          exact .makeFolder place room free
        · simp at happened
  | read place =>
      obtain ⟨rfl, bytes, there⟩ := map_content_eq_ok happened
      exact .read place bytes there
  | create place =>
      simp only [after] at happened
      split at happened
      · simp at happened
      next room =>
        split at happened
        · simp at happened
        next free =>
          cases happened
          exact .create place room free
  | write place content =>
      obtain ⟨rfl, bytes, there⟩ := map_content_eq_ok happened
      exact .write place content bytes there
  | flush place =>
      obtain ⟨rfl, bytes, there⟩ := map_content_eq_ok happened
      exact .flush place bytes there
  | rename source target =>
      simp only [after] at happened
      split at happened
      · simp at happened
      next bytes there =>
        split at happened
        · simp at happened
        next room =>
          split at happened
          · simp at happened
          next free =>
            cases happened
            exact .rename source target bytes ((content_eq_ok_iff disk source bytes).mp there) room
              free
  | remove place =>
      obtain ⟨rfl, bytes, there⟩ := map_content_eq_ok happened
      exact .remove place bytes there

theorem Disk.Change.fileAt? {disk next : Disk} {step : FileStep} (change : disk.Change step next)
    (other : Place) (apart : other ∉ step.touches) : next.fileAt? other = disk.fileAt? other := by
  cases change with
  | makeFolder place room free =>
      by_cases same : other = place
      · subst same
        by_cases root : other = []
        · simp [root, get?_root] at free
        · simp only [Disk.fileAt?, free, get?_put_self disk other _ root]
      · exact fileAt?_congr (get?_put_of_ne disk place _ other same)
  | read place bytes there => rfl
  | create place room free =>
      exact fileAt?_congr (get?_put_of_ne disk place _ other (by simpa [FileStep.touches] using apart))
  | write place content bytes there =>
      exact fileAt?_congr (get?_put_of_ne disk place _ other (by simpa [FileStep.touches] using apart))
  | flush place bytes there => rfl
  | rename source target bytes there room free =>
      simp only [FileStep.touches, List.mem_cons, List.not_mem_nil, or_false, not_or] at apart
      apply fileAt?_congr
      rw [get?_put_of_ne _ target _ other apart.2, get?_erase_of_ne disk source other apart.1]
  | remove place bytes there =>
      exact fileAt?_congr (get?_erase_of_ne disk place other (by simpa [FileStep.touches] using apart))

theorem Disk.Change.folder {disk next : Disk} {step : FileStep} (change : disk.Change step next)
    (other : Place) (folder : disk.get? other = some .folder) :
    next.get? other = some .folder := by
  cases change with
  | makeFolder place room free =>
      rwa [get?_put_of_ne disk place _ other (by rintro rfl; simp [folder] at free)]
  | read place bytes there => exact folder
  | create place room free =>
      rwa [get?_put_of_ne disk place _ other (by rintro rfl; exact free folder)]
  | write place content bytes there =>
      rwa [get?_put_of_ne disk place _ other (by rintro rfl; simp [folder] at there)]
  | flush place bytes there => exact folder
  | rename source target bytes there room free =>
      rw [get?_put_of_ne _ target _ other (by rintro rfl; exact free folder)]
      rwa [get?_erase_of_ne disk source other (by rintro rfl; simp [folder] at there)]
  | remove place bytes there =>
      rwa [get?_erase_of_ne disk place other (by rintro rfl; simp [folder] at there)]

end GameScenes.Storage
