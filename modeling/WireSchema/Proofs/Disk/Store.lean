import WireSchema.Disk.Store

/-!
Writing files. Files come and go, but the folders stay as they are, and whether a path leads to a place at all
is a matter of the folders only. So a file that is written never makes it possible or impossible to write
another one; at most it changes the reason why that fails.
-/

namespace WireSchema.Disk

/-! ## One file -/

theorem lookup_filter_ne (p q : Place) (files : List (Place × List UInt8)) (h : q ≠ p) :
    (files.filter fun f => f.1 != p).lookup q = files.lookup q := by
  induction files with
  | nil => rfl
  | cons f files ih =>
      obtain ⟨place, bytes⟩ := f
      by_cases hp : place = p
      · have hq : (q == place) = false := by simpa [hp] using h
        simp [List.lookup_cons, hp, ih, hp ▸ hq]
      · simp [List.lookup_cons, hp, ih]

theorem file?_put (d : Disk) (p q : Place) (bytes : List UInt8) :
    (d.put p bytes).file? q = if q = p then some bytes else d.file? q := by
  by_cases h : q = p
  · simp [put, file?, h]
  · rw [if_neg h, file?, put, List.lookup_cons, beq_false_of_ne h, lookup_filter_ne p q d.files h, file?]

/-! ## The folders -/

/-- The disks have the same folders, and their paths start from the same one. -/
structure SameFolders (d d' : Disk) : Prop where
  folders : d'.folders = d.folders
  home : d'.home = d.home

namespace SameFolders

theorem refl (d : Disk) : d.SameFolders d :=
  ⟨rfl, rfl⟩

theorem trans {d d' d'' : Disk} (h : d.SameFolders d') (h' : d'.SameFolders d'') : d.SameFolders d'' :=
  ⟨h'.folders.trans h.folders, h'.home.trans h.home⟩

theorem symm {d d' : Disk} (h : d.SameFolders d') : d'.SameFolders d :=
  ⟨h.folders.symm, h.home.symm⟩

theorem put (d : Disk) (p : Place) (bytes : List UInt8) : d.SameFolders (d.put p bytes) :=
  ⟨rfl, rfl⟩

variable {d d' : Disk}

theorem isFolder (h : d.SameFolders d') (p : Place) : d'.isFolder p = d.isFolder p := by
  rw [Disk.isFolder, Disk.isFolder, h.folders]

theorem start (h : d.SameFolders d') (path : String) : d'.start path = d.start path := by
  rw [Disk.start, Disk.start, h.home]

theorem enter (h : d.SameFolders d') {here p : Place} {names : List String}
    (hp : d.enter here names = .ok p) : d'.enter here names = .ok p := by
  induction names generalizing here with
  | nil => exact hp
  | cons n names ih =>
      simp only [Disk.enter, h.isFolder] at hp ⊢
      by_cases hfolder : d.isFolder (step here n) = true
      · rw [if_pos hfolder] at hp ⊢
        exact ih hp
      · rw [if_neg hfolder] at hp
        split at hp <;> cases hp

theorem locate (h : d.SameFolders d') {path : String} {p : Place} (hp : d.locate path = .ok p) :
    d'.locate path = .ok p := by
  simp only [Disk.locate, h.start] at hp ⊢
  split at hp
  · exact hp
  · cases henter : d.enter (d.start path) (Path.names path).dropLast with
    | error t => rw [henter] at hp; cases hp
    | ok folder =>
        rw [henter] at hp
        rw [h.enter henter]
        exact hp

end SameFolders

/-- A file that is put elsewhere is not in the way of what a path leads to. -/
theorem find_put_of_ne {d : Disk} {path : String} {p q : Place} (hlocate : d.locate path = .ok q) (h : q ≠ p)
    (bytes : List UInt8) : (d.put p bytes).find path = d.find path := by
  have hfolders := SameFolders.put d p bytes
  simp only [find, hlocate, hfolders.locate hlocate, hfolders.isFolder, file?_put, if_neg h]

/-! ## Several files -/

def putAll (d : Disk) (files : List (Place × List UInt8)) : Disk :=
  files.foldl (fun d f => d.put f.1 f.2) d

theorem sameFolders_putAll (d : Disk) (files : List (Place × List UInt8)) :
    d.SameFolders (d.putAll files) := by
  induction files generalizing d with
  | nil => exact .refl d
  | cons f files ih => exact (SameFolders.put d f.1 f.2).trans (ih (d.put f.1 f.2))

theorem file?_putAll_of_not_mem (d : Disk) {files : List (Place × List UInt8)} {p : Place}
    (h : p ∉ files.map Prod.fst) : (d.putAll files).file? p = d.file? p := by
  induction files generalizing d with
  | nil => rfl
  | cons f files ih =>
      rw [List.map_cons, List.mem_cons, not_or] at h
      exact (ih (d.put f.1 f.2) h.2).trans (by rw [file?_put, if_neg h.1])

theorem file?_putAll_of_mem (d : Disk) {files : List (Place × List UInt8)}
    (hnodup : (files.map Prod.fst).Nodup) {p : Place} {bytes : List UInt8} (h : (p, bytes) ∈ files) :
    (d.putAll files).file? p = some bytes := by
  induction files generalizing d with
  | nil => cases h
  | cons f files ih =>
      rw [List.map_cons, List.nodup_cons] at hnodup
      rcases List.mem_cons.mp h with rfl | hrest
      · exact (file?_putAll_of_not_mem (d.put p bytes) hnodup.1).trans (by rw [file?_put, if_pos rfl])
      · exact ih (d.put f.1 f.2) hnodup.2 hrest

/-! ## Whole files -/

/-- A file can be written if its path leads to a place that is no folder. -/
theorem replace_eq_ok {d d' : Disk} {path : String} {bytes : List UInt8} :
    d.replace path bytes = .ok d' ↔
      ∃ p, d.locate path = .ok p ∧ d.isFolder p = false ∧ Path.meansFolder path = false ∧
        d.put p bytes = d' := by
  unfold replace
  cases d.locate path with
  | error t => simp
  | ok p =>
      cases hfolder : d.isFolder p <;> cases Path.meansFolder path <;> simp [hfolder]

/-- Where a path leads to a place, other files make no difference to writing there. -/
theorem replace_eq_error {d d' : Disk} (h : d.SameFolders d') {path : String} {p : Place}
    (hp : d.locate path = .ok p) (bytes : List UInt8) (t : Trouble) :
    d'.replace path bytes = .error t ↔ d.replace path bytes = .error t := by
  simp only [replace, hp, h.locate hp, h.isFolder]
  split
  · rfl
  · split <;> simp

/-- The disks have the same folders and the same files. -/
structure Alike (d d' : Disk) : Prop extends d.SameFolders d' where
  files : ∀ p, d'.file? p = d.file? p

namespace Alike

variable {d d' : Disk}

theorem enter_eq (h : d.Alike d') (here : Place) (names : List String) :
    d'.enter here names = d.enter here names := by
  induction names generalizing here with
  | nil => rfl
  | cons n names ih => simp only [Disk.enter, h.isFolder, h.files, ih]

/-- Every path leads to the same on both. -/
theorem find_eq (h : d.Alike d') (path : String) : d'.find path = d.find path := by
  simp only [Disk.find, Disk.locate, h.start, h.enter_eq, h.isFolder, h.files]

end Alike

/-- Files at different places can be put there in any order. -/
theorem alike_putAll_of_perm (d : Disk) {files files' : List (Place × List UInt8)} (h : files.Perm files')
    (hnodup : (files.map Prod.fst).Nodup) : (d.putAll files).Alike (d.putAll files') := by
  refine { toSameFolders := (d.sameFolders_putAll files).symm.trans (d.sameFolders_putAll files'), files := ?_ }
  intro p
  have hkeys := h.map Prod.fst
  by_cases hp : p ∈ files.map Prod.fst
  · obtain ⟨⟨_, bytes⟩, hf, rfl⟩ := List.mem_map.mp hp
    rw [d.file?_putAll_of_mem hnodup hf, d.file?_putAll_of_mem (hkeys.nodup hnodup) (h.subset hf)]
  · rw [d.file?_putAll_of_not_mem hp, d.file?_putAll_of_not_mem fun hp' => hp (hkeys.symm.subset hp')]

end WireSchema.Disk
