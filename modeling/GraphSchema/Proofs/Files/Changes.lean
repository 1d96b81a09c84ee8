import GraphSchema.Files.Disk
import Mathlib.Data.List.Basic

/-! What the operations of a disk change. Directories are made without a change to any file, a write
changes the one file that its path leads to, and a path that leads somewhere goes on to lead there. -/
namespace GraphSchema
open Text (Bytes)

theorem Path.hasNull_parent {p : Path} (h : p.hasNull = false) : p.parent.hasNull = false := by
  simp only [Path.hasNull, List.any_eq_false] at h ⊢
  intro part hpart
  exact h part ((List.dropLast_sublist p.parts).mem hpart)

/-- Looking up in a table in which the values of one key have been replaced. -/
theorem lookup_map_key {α β : Type} [BEq α] [LawfulBEq α] [DecidableEq α] (k : α) (v : β)
    (entries : List (α × β)) (a : α) :
    (entries.map fun x => if x.1 = k then (k, v) else x).lookup a =
      if a = k then (entries.lookup k).map fun _ => v else entries.lookup a := by
  induction entries with
  | nil => simp
  | cons x entries ih =>
    obtain ⟨key, value⟩ := x
    rw [List.map_cons]
    by_cases hkey : key = k
    · subst hkey
      by_cases ha : a = key
      · simp [ha]
      · have hbeq : (a == key) = false := beq_eq_false_iff_ne.mpr ha
        simp [ha, List.lookup_cons, hbeq, ih]
    · by_cases ha : a = k
      · subst ha
        have hbeq : (a == key) = false := beq_eq_false_iff_ne.mpr (Ne.symm hkey)
        simp [hkey, List.lookup_cons, hbeq, ih]
      · simp [hkey, List.lookup_cons, ih, ha]

namespace Disk
variable {d d' : Disk} {p q : Place} {path : Path} {bytes : Bytes}

/-- The content of the file at a place, if a file is there. -/
def content? (d : Disk) (p : Place) : Option Bytes :=
  match d.entry? p with
  | some (.file content) => some content
  | _ => none

theorem ne_root_of_not_directory (h : d.entry? p ≠ some .directory) : p ≠ [] := by
  rintro rfl
  exact h (if_pos rfl)

theorem entry?_put (hp : p ≠ []) (d : Disk) (e : Entry) (q : Place) :
    Disk.entry? (d.put p e) q = if q = p then some e else d.entry? q := by
  unfold entry? put
  by_cases hroot : q = []
  · simp [hroot, Ne.symm hp]
  · simp only [hroot, if_false]
    by_cases hthere : (d.entries.lookup p).isSome
    · obtain ⟨old, hold⟩ := Option.isSome_iff_exists.mp hthere
      simp [lookup_map_key, hold]
    · have hnone : d.entries.lookup p = none := Option.not_isSome_iff_eq_none.mp hthere
      by_cases hq : q = p
      · simp [hq, hnone, List.lookup_append]
      · have hbeq : (q == p) = false := beq_eq_false_iff_ne.mpr hq
        simp [hq, hnone, List.lookup_append, List.lookup_cons, hbeq]

theorem working_put (d : Disk) (p : Place) (e : Entry) : (d.put p e).working = d.working := by
  unfold put
  split <;> rfl

theorem content?_put_file (hp : p ≠ []) (d : Disk) (bytes : Bytes) (q : Place) :
    (d.put p (.file bytes)).content? q = if q = p then some bytes else d.content? q := by
  by_cases hq : q = p
  · simp [content?, entry?_put hp, hq]
  · simp [content?, entry?_put hp, hq]

/-- A path is followed alike on a disk that has at least the directories of another. -/
theorem follow_of_directories
    (hdirectories : ∀ p, d.entry? p = some .directory → d'.entry? p = some .directory)
    (parts : List String) (h : d.follow p parts = .ok q) : d'.follow p parts = .ok q := by
  induction parts generalizing p with
  | nil => exact h
  | cons part rest ih =>
    cases rest with
    | nil => exact h
    | cons next rest =>
      simp only [follow] at h ⊢
      cases hmove : moveTo p part with
      | error fault => simp [hmove] at h
      | ok r =>
        simp only [hmove] at h ⊢
        split at h
        next => simp at h
        next => simp at h
        -- the way goes on through a directory only, and the other disk has it
        next hentry =>
          rw [hdirectories r hentry]
          exact ih h

theorem locate_of_directories (hworking : d'.working = d.working)
    (hdirectories : ∀ p, d.entry? p = some .directory → d'.entry? p = some .directory)
    (h : d.locate path = .ok p) : d'.locate path = .ok p := by
  unfold locate at h ⊢
  split at h
  next => simp at h
  next hlimit =>
    rw [if_neg hlimit, hworking]
    exact follow_of_directories hdirectories path.parts h

/-- Nothing has changed but for directories that are new. -/
structure KeepsFiles (d d' : Disk) : Prop where
  working : d'.working = d.working
  directories : ∀ p, d.entry? p = some .directory → d'.entry? p = some .directory
  files : ∀ p, d'.content? p = d.content? p

namespace KeepsFiles

theorem refl (d : Disk) : KeepsFiles d d := ⟨rfl, fun _ h => h, fun _ => rfl⟩

theorem trans {d'' : Disk} (h : KeepsFiles d d') (h' : KeepsFiles d' d'') : KeepsFiles d d'' where
  working := h'.working.trans h.working
  directories := fun p hp => h'.directories p (h.directories p hp)
  files := fun p => (h'.files p).trans (h.files p)

end KeepsFiles

theorem keepsFiles_of_makeDirectory (h : d.makeDirectory path = .ok d') : KeepsFiles d d' := by
  unfold makeDirectory at h
  cases hlocate : d.locate path with
  | error fault => simp [hlocate, bind, Except.bind] at h
  | ok p =>
    simp only [hlocate, bind, Except.bind] at h
    split at h
    next hnone =>
      obtain rfl := Except.ok.inj h
      have hp : p ≠ [] := ne_root_of_not_directory (d := d) (by simp [hnone])
      refine ⟨working_put d p .directory, fun q hq => ?_, fun q => ?_⟩
      · rw [entry?_put hp, hq]
        split <;> rfl
      · by_cases hq : q = p
        · simp [content?, entry?_put hp, hq, hnone]
        · simp [content?, entry?_put hp, hq]
    next => simp at h

theorem keepsFiles_of_ensureOne (h : d.ensureOne path = .ok d') : KeepsFiles d d' := by
  unfold ensureOne at h
  split at h
  next hmake =>
    obtain rfl := Except.ok.inj h
    exact keepsFiles_of_makeDirectory hmake
  next =>
    split at h
    next =>
      obtain rfl := Except.ok.inj h
      exact .refl d
    next => simp at h

theorem keepsFiles_ensureWith (d : Disk) (path : Path) (above : List Path) :
    KeepsFiles d (d.ensureWith path above).1 := by
  induction above generalizing d path with
  | nil =>
    unfold ensureWith
    split
    next hone => exact keepsFiles_of_ensureOne hone
    next => exact .refl d
  | cons parent above ih =>
    have hparent := ih d parent
    unfold ensureWith
    split
    next hmake => exact keepsFiles_of_makeDirectory hmake
    next =>
      split
      next hfailed =>
        rw [hfailed] at hparent
        exact hparent
      next hmade =>
        rw [hmade] at hparent
        split
        next hone => exact hparent.trans (keepsFiles_of_ensureOne hone)
        next => exact hparent
    next => split <;> exact .refl d

theorem keepsFiles_of_ensureDirectory {r : Except DiskError Unit}
    (h : d.ensureDirectory path = (d', r)) : KeepsFiles d d' := by
  have hkept : KeepsFiles d (d.ensureDirectory path).1 := keepsFiles_ensureWith d path path.parents
  rwa [h] at hkept

/-- The file that a path leads to has been given a content, and all other files are kept. -/
structure Replaced (d d' : Disk) (path : Path) (bytes : Bytes) : Prop where
  read : d'.read path = .ok bytes
  others : ∃ p, d'.locate path = .ok p ∧ ∀ q, q ≠ p → d'.content? q = d.content? q

theorem KeepsFiles.replaced {d'' : Disk} (h : KeepsFiles d d')
    (hreplaced : Replaced d' d'' path bytes) : Replaced d d'' path bytes := by
  obtain ⟨p, hlocate, hothers⟩ := hreplaced.others
  exact ⟨hreplaced.read, p, hlocate, fun q hq => (hothers q hq).trans (h.files q)⟩

theorem write_eq_ok : d.write path bytes = .ok d' ↔
    ∃ p, d.locate path = .ok p ∧ d.entry? p ≠ some .directory ∧ d' = d.put p (.file bytes) := by
  unfold write change
  cases hlocate : d.locate path with
  | error fault => simp [bind, Except.bind]
  | ok p =>
    simp only [bind, Except.bind]
    cases hentry : d.entry? p with
    | none => simp [hentry, eq_comm]
    | some e => cases e <;> simp [hentry, eq_comm]

/-- A path leads to the file that has been put where it led before. -/
theorem locate_put_file (hlocate : d.locate path = .ok p) (hentry : d.entry? p ≠ some .directory)
    (bytes : Bytes) : (d.put p (.file bytes)).locate path = .ok p := by
  refine locate_of_directories (working_put d p _) (fun q hq => ?_) hlocate
  -- what a path passes through are directories, and where it ends was none
  have hqp : q ≠ p := by
    rintro rfl
    exact hentry hq
  rw [entry?_put (ne_root_of_not_directory hentry), if_neg hqp, hq]

theorem replaced_of_write (h : d.write path bytes = .ok d') : Replaced d d' path bytes := by
  obtain ⟨p, hlocate, hentry, rfl⟩ := write_eq_ok.mp h
  have hp := ne_root_of_not_directory hentry
  have hlocate' := locate_put_file hlocate hentry bytes
  refine ⟨?_, p, hlocate', fun q hq => ?_⟩
  · simp [read, hlocate', entry?_put hp, bind, Except.bind]
  · rw [content?_put_file hp, if_neg hq]

/-- A file that has been written can be written again, and of the first content nothing is left. -/
theorem exists_rewritten (h : d.write path bytes = .ok d') (again : Bytes) :
    ∃ d'', d'.write path again = .ok d'' ∧ Replaced d d'' path again := by
  obtain ⟨p, hlocate, hentry, rfl⟩ := write_eq_ok.mp h
  have hp := ne_root_of_not_directory hentry
  have hlocate' := locate_put_file hlocate hentry bytes
  have hfile : Disk.entry? (d.put p (.file bytes)) p ≠ some .directory := by simp [entry?_put hp]
  have hagain : (d.put p (.file bytes)).write path again = _ :=
    write_eq_ok.mpr ⟨p, hlocate', hfile, rfl⟩
  refine ⟨_, hagain, (replaced_of_write hagain).read, p,
    locate_put_file hlocate' hfile again, fun q hq => ?_⟩
  rw [content?_put_file hp, if_neg hq, content?_put_file hp, if_neg hq]

end Disk
end GraphSchema
