import GameScenes.Proofs.Storage.Again

/-!
# Two disks side by side

Two runs may put different contents into the same files.  How far the contents at a place may
differ is said by a relation for each place (`Nearness`); which files and folders there are is the
same on both disks (`Disk.Matches`).  The same steps then happen on both disks or are refused for
the same reason, and saving a file on both of them leaves the disks matching if the two contents
may stand in this file (`Parallel.saveFile`).
-/

set_option autoImplicit false

namespace GameScenes.Storage

/-- How the contents of two files at one place may differ. -/
abbrev Nearness := Place → ByteArray → ByteArray → Prop

variable {near next : Nearness} {disk other : Disk} {place : Place}

/-! ## Matching disks -/

/-- That two places hold nothing, or folders, or files whose contents are related. -/
inductive Entry.Matches (related : ByteArray → ByteArray → Prop) :
    Option Entry → Option Entry → Prop
  | missing : Matches related none none
  | folder : Matches related (some .folder) (some .folder)
  | file {bytes others : ByteArray} (agree : related bytes others) :
      Matches related (some (.file bytes)) (some (.file others))

def Disk.Matches (near : Nearness) (disk other : Disk) : Prop :=
  ∀ place, Entry.Matches (near place) (disk.get? place) (other.get? place)

namespace Disk.Matches

theorem refl (near : Nearness) (same : ∀ place bytes, near place bytes bytes) (disk : Disk) :
    disk.Matches near disk := by
  intro place
  rcases disk.get? place with _ | _ | bytes
  · exact .missing
  · exact .folder
  · exact .file (same place bytes)

theorem mono (disks : disk.Matches near other)
    (wider : ∀ place bytes others, near place bytes others → next place bytes others) :
    disk.Matches next other := by
  intro place
  have here := disks place
  generalize disk.get? place = left at here ⊢
  generalize other.get? place = right at here ⊢
  cases here with
  | missing => exact .missing
  | folder => exact .folder
  | file agree => exact .file (wider place _ _ agree)

theorem cases_at (disks : disk.Matches near other) (place : Place) :
    (disk.get? place = none ∧ other.get? place = none) ∨
    (disk.get? place = some .folder ∧ other.get? place = some .folder) ∨
    ∃ bytes others, near place bytes others ∧ disk.get? place = some (.file bytes) ∧
      other.get? place = some (.file others) := by
  have here := disks place
  generalize disk.get? place = left at here ⊢
  generalize other.get? place = right at here ⊢
  cases here with
  | missing => exact .inl ⟨rfl, rfl⟩
  | folder => exact .inr (.inl ⟨rfl, rfl⟩)
  | file agree => exact .inr (.inr ⟨_, _, agree, rfl, rfl⟩)

/-- Where contents may not differ the disks hold the same. -/
theorem get?_eq (disks : disk.Matches near other)
    (strict : ∀ bytes others, near place bytes others → bytes = others) :
    disk.get? place = other.get? place := by
  rcases disks.cases_at place with
    ⟨left, right⟩ | ⟨left, right⟩ | ⟨bytes, others, agree, left, right⟩
  · rw [left, right]
  · rw [left, right]
  · rw [left, right, strict _ _ agree]

theorem put (disks : disk.Matches near other) {entry again : Entry}
    (agree : Entry.Matches (near place) (some entry) (some again)) :
    (disk.put place entry).Matches near (other.put place again) := by
  intro i
  by_cases root : i = []
  · subst root
    exact .folder
  · rw [get?_put _ _ _ _ root, get?_put _ _ _ _ root]
    split
    · next same => exact same ▸ agree
    · exact disks i

theorem erase (disks : disk.Matches near other) (place : Place) :
    (disk.erase place).Matches near (other.erase place) := by
  intro i
  by_cases root : i = []
  · subst root
    exact .folder
  · rw [get?_erase _ _ _ root, get?_erase _ _ _ root]
    split
    · exact .missing
    · exact disks i

theorem requireFolder (disks : disk.Matches near other) (place : Place) :
    disk.requireFolder place = other.requireFolder place := by
  unfold Disk.requireFolder
  rcases disks.cases_at place with
    ⟨left, right⟩ | ⟨left, right⟩ | ⟨bytes, others, agree, left, right⟩ <;> rw [left, right]

theorem requireRoom (disks : disk.Matches near other) (place : Place) :
    disk.requireRoom place = other.requireRoom place := by
  unfold Disk.requireRoom
  rw [disks.requireFolder]

theorem follow (disks : disk.Matches near other) (place : Place) (parts : List String) :
    disk.follow place parts = other.follow place parts := by
  induction parts generalizing place with
  | nil => rfl
  | cons part rest ih =>
      unfold Disk.follow
      rw [disks.requireFolder]
      split
      · rfl
      · rw [ih]

/-- A path leads to the same place on both disks. -/
theorem locate (disks : disk.Matches near other) (working : Place) (path : String) :
    disk.locate working path = other.locate working path := by
  unfold Disk.locate
  rw [disks.follow]

/-- Both places hold files, or there is content at neither of them. -/
theorem content (disks : disk.Matches near other) (place : Place) :
    (∃ bytes others, near place bytes others ∧ disk.content place = .ok bytes ∧
      other.content place = .ok others) ∨
    ∃ fault, disk.content place = .error fault ∧ other.content place = .error fault := by
  unfold Disk.content
  rcases disks.cases_at place with
    ⟨left, right⟩ | ⟨left, right⟩ | ⟨bytes, others, agree, left, right⟩
  · rw [left, right]
    exact .inr ⟨_, rfl, rfl⟩
  · rw [left, right]
    exact .inr ⟨_, rfl, rfl⟩
  · rw [left, right]
    exact .inl ⟨_, _, agree, rfl, rfl⟩

end Disk.Matches

/-! ## Steps -/

/-- That a step and a step on the other disk do the same, apart from what a file is filled with. -/
inductive FileStep.Pairs (near : Nearness) : FileStep → FileStep → Prop
  | makeFolder (place : Place) : Pairs near (.makeFolder place) (.makeFolder place)
  | read (place : Place) : Pairs near (.read place) (.read place)
  | create {place : Place} (empty : near place ByteArray.empty ByteArray.empty) :
      Pairs near (.create place) (.create place)
  | write {place : Place} {content again : ByteArray} (whole : near place content again)
      (parts : ∀ kept, near place (content.extract 0 kept) (again.extract 0 kept)) :
      Pairs near (.write place content) (.write place again)
  | flush (place : Place) : Pairs near (.flush place) (.flush place)
  | rename {source target : Place}
      (moved : ∀ bytes others, near source bytes others → near target bytes others) :
      Pairs near (.rename source target) (.rename source target)
  | remove (place : Place) : Pairs near (.remove place) (.remove place)

variable {step again : FileStep}

/-- A step that is refused leaves matching disks. -/
theorem Disk.Matches.afterRefusal (disks : disk.Matches near other)
    (steps : FileStep.Pairs near step again) (refusal : Refusal) :
    (disk.afterRefusal refusal step).Matches near (other.afterRefusal refusal again) := by
  cases steps with
  | @write place content again whole parts =>
      simp only [Disk.afterRefusal]
      -- a refused write may have filled a part of the file
      rcases disks.cases_at place with
        ⟨left, right⟩ | ⟨left, right⟩ | ⟨bytes, others, agree, left, right⟩
      · rw [left, right]
        exact disks
      · rw [left, right]
        exact disks
      · rw [left, right]
        exact disks.put (.file (parts refusal.kept))
  | _ => exact disks

/-- That two attempts fail for one reason, or that both happen and leave matching disks. -/
inductive Disk.Concur (near : Nearness) : Except DiskFault Disk → Except DiskFault Disk → Prop
  | failed (fault : DiskFault) : Concur near (.error fault) (.error fault)
  | happened {disk other : Disk} (disks : disk.Matches near other) :
      Concur near (.ok disk) (.ok other)

theorem Disk.Matches.concur_of_content (disks : disk.Matches near other) (place : Place)
    {later last : Disk} (after : later.Matches next last) :
    Disk.Concur next ((disk.content place).map fun _ => later)
      ((other.content place).map fun _ => last) := by
  rcases disks.content place with ⟨bytes, others, -, left, right⟩ | ⟨fault, left, right⟩
  · rw [left, right]
    exact .happened after
  · rw [left, right]
    exact .failed fault

theorem Disk.Matches.after (disks : disk.Matches near other)
    (steps : FileStep.Pairs near step again) :
    Disk.Concur near (disk.after step) (other.after again) := by
  cases steps with
  | makeFolder place =>
      simp only [Disk.after, disks.requireRoom]
      split
      · exact .failed _
      · rcases disks.cases_at place with
          ⟨left, right⟩ | ⟨left, right⟩ | ⟨bytes, others, agree, left, right⟩
        · rw [left, right]
          exact .happened (disks.put .folder)
        · rw [left, right]
          exact .failed _
        · rw [left, right]
          exact .failed _
  | read place => exact disks.concur_of_content place disks
  | @create place empty =>
      simp only [Disk.after, disks.requireRoom]
      split
      · exact .failed _
      · rcases disks.cases_at place with
          ⟨left, right⟩ | ⟨left, right⟩ | ⟨bytes, others, agree, left, right⟩
        · rw [left, right]
          exact .happened (disks.put (.file empty))
        · rw [left, right]
          exact .failed _
        · rw [left, right]
          exact .happened (disks.put (.file empty))
  | @write place content again whole parts =>
      exact disks.concur_of_content place (disks.put (.file whole))
  | flush place => exact disks.concur_of_content place disks
  | @rename source target moved =>
      simp only [Disk.after, disks.requireRoom]
      rcases disks.content source with ⟨bytes, others, agree, left, right⟩ | ⟨fault, left, right⟩
      · rw [left, right]
        dsimp only
        have gone := (disks.erase source).put (.file (moved bytes others agree))
        split
        · exact .failed _
        · rcases disks.cases_at target with
            ⟨left, right⟩ | ⟨left, right⟩ | ⟨bytes, others, agree, left, right⟩
          · rw [left, right]
            exact .happened gone
          · rw [left, right]
            exact .failed _
          · rw [left, right]
            exact .happened gone
      · rw [left, right]
        exact .failed fault
  | remove place => exact disks.concur_of_content place (disks.erase place)

end GameScenes.Storage

namespace GameScenes.Storage

variable {near later final : Nearness} {s t : Storage} {step again : FileStep}

/-! ## Storages -/

/-- That two storages have come to matching disks by as many steps, and that the host will refuse the
same ones. -/
structure Parallel (near : Nearness) (s t : Storage) : Prop where
  disks : s.disk.Matches near t.disk
  working : t.working = s.working
  refusals : t.refusals = s.refusals
  taken : t.journal.length = s.journal.length

theorem Parallel.refl (same : ∀ place bytes, near place bytes bytes) (storage : Storage) :
    Parallel near storage storage :=
  ⟨.refl near same storage.disk, rfl, rfl, rfl⟩

theorem Parallel.mono (both : Parallel near s t)
    (wider : ∀ place bytes others, near place bytes others → later place bytes others) :
    Parallel later s t :=
  { both with disks := both.disks.mono wider }

/-- That two attempts have one result: they leave storages side by side, also where they fail. -/
inductive Agree {ε α : Type} (failing done : Nearness) :
    Except ε α × Storage → Except ε α × Storage → Prop
  | failed (fault : ε) {s t : Storage} (both : Parallel failing s t) :
      Agree failing done (.error fault, s) (.error fault, t)
  | done (result : α) {s t : Storage} (both : Parallel done s t) :
      Agree failing done (.ok result, s) (.ok result, t)

namespace Agree

variable {ε α : Type} {x y : Except ε α × Storage}

theorem result (agree : Agree near later x y) : y.1 = x.1 := by
  cases agree <;> rfl

theorem both (agree : Agree near near x y) : Parallel near x.2 y.2 := by
  cases agree with
  | failed fault both => exact both
  | done result both => exact both

end Agree

/-- A step is refused on both hosts or on neither; where it happens the disks may come to match in
another way. -/
theorem Parallel.perform_of_concur (both : Parallel near s t)
    (refused : ∀ refusal, (s.disk.afterRefusal refusal step).Matches near
      (t.disk.afterRefusal refusal again))
    (concur : Disk.Concur later (s.disk.after step) (t.disk.after again)) :
    Agree near later (s.perform step) (t.perform again) := by
  unfold perform
  rw [both.refusals, both.taken]
  have length : ∀ result others (disk other : Disk),
      (t.record again others other).journal.length =
        (s.record step result disk).journal.length := by
    intro result others disk other
    simp [record, both.taken]
  split
  · next refusal _ =>
      exact .failed _ ⟨refused refusal, both.working, both.refusals, length ..⟩
  · generalize s.disk.after step = first at concur ⊢
    generalize t.disk.after again = second at concur ⊢
    cases concur with
    | failed fault =>
        exact .failed _ ⟨both.disks, both.working, both.refusals, length ..⟩
    | happened disks => exact .done _ ⟨disks, both.working, both.refusals, length ..⟩

theorem Parallel.perform (both : Parallel near s t) (steps : FileStep.Pairs near step again) :
    Agree near near (s.perform step) (t.perform again) :=
  both.perform_of_concur (both.disks.afterRefusal steps) (both.disks.after steps)

/-- The nearness after a file was filled: its contents are known. -/
def Nearness.filled (near : Nearness) (place : Place) (content again : ByteArray) : Nearness :=
  fun i bytes others => if i = place then bytes = content ∧ others = again else near i bytes others

theorem Nearness.of_filled {place : Place} {content again : ByteArray}
    (whole : near place content again) (i : Place) (bytes others : ByteArray)
    (agree : near.filled place content again i bytes others) : near i bytes others := by
  unfold Nearness.filled at agree
  split at agree
  · next same =>
      obtain ⟨rfl, rfl⟩ := agree
      exact same ▸ whole
  · exact agree

theorem Parallel.perform_write (both : Parallel near s t) {place : Place}
    {content others : ByteArray} (whole : near place content others)
    (parts : ∀ kept, near place (content.extract 0 kept) (others.extract 0 kept)) :
    Agree near (near.filled place content others) (s.perform (.write place content))
      (t.perform (.write place others)) := by
  refine both.perform_of_concur (both.disks.afterRefusal (.write whole parts)) ?_
  apply both.disks.concur_of_content place
  intro i
  by_cases same : i = place
  · subst same
    by_cases root : i = []
    · subst root
      exact .folder
    · rw [Disk.get?_put_self _ _ _ root, Disk.get?_put_self _ _ _ root]
      exact .file (by simp [Nearness.filled])
  · rw [Disk.get?_put_of_ne _ _ _ _ same, Disk.get?_put_of_ne _ _ _ _ same]
    have strict : near.filled place content others i = near i := by
      funext bytes again
      rw [Nearness.filled, if_neg same]
    rw [strict]
    exact both.disks i

theorem Agree.performAll_cons {steps others : List FileStep}
    (first : Agree near later (s.perform step) (t.perform again))
    (rest : ∀ {s t : Storage}, Parallel later s t →
      Agree near final (s.performAll steps) (t.performAll others)) :
    Agree near final (s.performAll (step :: steps)) (t.performAll (again :: others)) := by
  unfold performAll
  generalize s.perform step = left at first ⊢
  generalize t.perform again = right at first ⊢
  cases first with
  | failed fault both => exact .failed fault both
  | done result both => exact rest both

theorem Agree.wider {ε α : Type} {x y : Except ε α × Storage} (agree : Agree later later x y)
    (wider : ∀ place bytes others, later place bytes others → near place bytes others) :
    Agree near near x y := by
  cases agree with
  | failed fault both => exact .failed fault (both.mono wider)
  | done result both => exact .done result (both.mono wider)

/-! ## Saving -/

/-- That two contents may stand in the files with a name, at the end and in drafts. -/
structure Fits (near : Nearness) (folder : Place) (name : String) (content others : ByteArray) :
    Prop where
  same : ∀ place bytes, near place bytes bytes
  file : near (folder ++ [name]) content others
  draft : content = others ∨ ∀ bytes others, near (folder ++ [draftName name]) bytes others

variable {folder : Place} {name : String} {content others : ByteArray}

theorem Fits.of_eq (same : ∀ place bytes, near place bytes bytes) (folder : Place) (name : String)
    (content : ByteArray) : Fits near folder name content content :=
  ⟨same, same _ content, .inl rfl⟩

/-- What is moved over a file is what its draft was filled with, on each disk its own. -/
theorem Parallel.saveSteps (both : Parallel near s t) (fits : Fits near folder name content others) :
    Agree near near (s.performAll (saveSteps folder name content))
      (t.performAll (saveSteps folder name others)) := by
  have whole : near (folder ++ [draftName name]) content others := by
    rcases fits.draft with rfl | any
    · exact fits.same _ content
    · exact any content others
  have parts : ∀ kept, near (folder ++ [draftName name]) (content.extract 0 kept)
      (others.extract 0 kept) := by
    intro kept
    rcases fits.draft with rfl | any
    · exact fits.same _ _
    · exact any _ _
  refine .performAll_cons (both.perform (.create (fits.same _ _))) fun both => ?_
  -- from here to the renaming it has to be known what each of the two drafts holds
  refine .performAll_cons (both.perform_write whole parts) fun both => ?_
  refine Agree.wider ?_ (Nearness.of_filled whole)
  refine .performAll_cons (both.perform (.flush _)) fun both => ?_
  refine .performAll_cons (both.perform (.rename ?_)) fun both => .done () both
  intro bytes again agree
  have apart : folder ++ [name] ≠ folder ++ [draftName name] := (draft_ne folder name).symm
  simp only [Nearness.filled, if_pos] at agree
  obtain ⟨rfl, rfl⟩ := agree
  simpa [Nearness.filled, apart] using fits.file

theorem Parallel.saveIn (both : Parallel near s t) (fits : Fits near folder name content others) :
    Agree near near (s.saveIn folder name content) (t.saveIn folder name others) := by
  have steps := both.saveSteps fits
  unfold Storage.saveIn
  generalize s.performAll (Storage.saveSteps folder name content) = left at steps ⊢
  generalize t.performAll (Storage.saveSteps folder name others) = right at steps ⊢
  cases steps with
  | failed fault both => exact .failed fault (both.perform (.remove _)).both
  | done result both => exact .done _ both

theorem Parallel.makeFoldersFrom (both : Parallel near s t) (place : Place)
    (parts : List String) :
    Agree near near (s.makeFoldersFrom place parts) (t.makeFoldersFrom place parts) := by
  induction parts generalizing s t place with
  | nil => exact .done place both
  | cons part rest ih =>
      unfold Storage.makeFoldersFrom
      dsimp only
      rcases both.disks.cases_at (enter place part) with
        ⟨left, right⟩ | ⟨left, right⟩ | ⟨bytes, others, agree, left, right⟩
      · rw [left, right]
        have made := both.perform (.makeFolder (enter place part))
        dsimp only
        generalize s.perform (.makeFolder (enter place part)) = left at made ⊢
        generalize t.perform (.makeFolder (enter place part)) = right at made ⊢
        cases made with
        | failed fault both => exact .failed fault both
        | done result both => exact ih both _
      · rw [left, right]
        exact ih both _
      · rw [left, right]
        exact .failed _ both

theorem Parallel.makeFolders (both : Parallel near s t) (path : String) :
    Agree near near (s.makeFolders path) (t.makeFolders path) := by
  unfold Storage.makeFolders
  split
  · exact .failed _ both
  · rw [both.working]
    exact both.makeFoldersFrom _ _

/-- A file is saved on both disks, or on neither of them. -/
theorem Parallel.saveFile (both : Parallel near s t) (path : String)
    (fits : Fits near (placeOf s.working path) name content others) :
    Agree near near (s.saveFile path name content) (t.saveFile path name others) := by
  obtain ⟨-, leads⟩ := makeFolders_spec s path
  have made := both.makeFolders path
  unfold Storage.saveFile
  generalize s.makeFolders path = left at made leads ⊢
  generalize t.makeFolders path = right at made ⊢
  cases made with
  | failed fault both => exact .failed fault both
  | done place both =>
      dsimp only
      split
      · exact .failed _ both
      · rw [← leads place rfl] at fits
        exact both.saveIn fits

/-- A file in which contents may not differ is read in the same way. -/
theorem Parallel.readText (both : Parallel near s t) (path : String)
    (strict : ∀ bytes others, near (placeOf s.working path) bytes others → bytes = others) :
    Agree near near (s.readText path) (t.readText path) := by
  have file : Agree near near (s.readFile path) (t.readFile path) := by
    unfold Storage.readFile
    rw [both.working, ← both.disks.locate]
    split
    · exact .failed _ both
    · next place located =>
        have asked := both.perform (.read place)
        rw [← locate_eq_ok located] at strict
        generalize s.perform (.read place) = left at asked ⊢
        generalize t.perform (.read place) = right at asked ⊢
        cases asked with
        | failed fault both => exact .failed fault both
        | @done result opened reopened both =>
            dsimp only
            rcases both.disks.content place with
              ⟨bytes, others, agree, left, right⟩ | ⟨fault, left, right⟩
            · rw [left, right, strict _ _ agree]
              exact .done _ both
            · rw [left, right]
              exact .failed fault both
  unfold Storage.readText
  generalize s.readFile path = left at file ⊢
  generalize t.readFile path = right at file ⊢
  cases file with
  | failed fault both => exact .failed fault both
  | done bytes both =>
      dsimp only
      split
      · exact .done _ both
      · exact .failed _ both

end GameScenes.Storage
