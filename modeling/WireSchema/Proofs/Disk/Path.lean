import WireSchema.Disk.Store

/-!
How paths are put together. A path begins at the root or at home and goes on by its names. The path of a name in
a folder goes by the names of the folder first and then by those of the name, since a name can have slashes in
it; and if the name begins with a slash, then the folder has no part in the path at all.
-/

namespace WireSchema.Disk

namespace Path

/-! ## The parts of a path -/

theorem splitSlashes_append (current front back : List Char) :
    splitSlashes current (front ++ '/' :: back) = splitSlashes current front ++ splitSlashes [] back := by
  induction front generalizing current with
  | nil => rfl
  | cons c front ih =>
      rw [List.cons_append, splitSlashes, splitSlashes, ih, ih]
      by_cases hc : c = '/'
      · rw [if_pos hc, if_pos hc, List.cons_append]
      · rw [if_neg hc, if_neg hc]

theorem splitSlashes_of_not_mem {cs : List Char} (h : '/' ∉ cs) (current : List Char) :
    splitSlashes current cs = [current.reverse ++ cs] := by
  induction cs generalizing current with
  | nil => rw [splitSlashes, List.append_nil]
  | cons c cs ih =>
      rw [List.mem_cons, not_or] at h
      rw [splitSlashes, if_neg (Ne.symm h.1), ih h.2, List.reverse_cons, List.append_assoc, List.singleton_append]

theorem names_slash (front back : String) : names (front ++ "/" ++ back) = names front ++ names back := by
  have hchars : (front ++ "/" ++ back).toList = front.toList ++ '/' :: back.toList := by
    simp [String.toList_append]
  rw [names, hchars, splitSlashes_append, List.map_append, List.filter_append, names, names]

theorem names_empty : names "" = [] := by
  decide

/-! ## Joining -/

/-- The path begins at the root. -/
def IsAbsolute (path : String) : Prop :=
  path.toList.head? = some '/'

instance (path : String) : Decidable (IsAbsolute path) :=
  inferInstanceAs (Decidable (_ = _))

theorem not_isAbsolute_of_not_mem {path : String} (h : '/' ∉ path.toList) : ¬IsAbsolute path :=
  fun habsolute => h (List.mem_of_mem_head? habsolute)

theorem isAbsolute_append {front : String} (h : front ≠ "") (back : String) :
    IsAbsolute (front ++ back) ↔ IsAbsolute front := by
  rw [IsAbsolute, IsAbsolute, String.toList_append]
  cases hfront : front.toList with
  | nil => exact absurd (String.toList_eq_nil_iff.mp hfront) h
  | cons c cs => rfl

/-- What stands before the names in a folder: its path with a slash at the end, unless it is empty. -/
def lead (folder : String) : String :=
  if folder = "" ∨ folder.toList.getLast? = some '/' then folder else folder ++ "/"

theorem join_of_isAbsolute {file : String} (h : IsAbsolute file) (folder : String) : join folder file = file :=
  if_pos (Or.inl h)

theorem join_eq {file : String} (h : ¬IsAbsolute file) (folder : String) :
    join folder file = lead folder ++ file := by
  rw [IsAbsolute] at h
  simp only [join, lead, h, false_or]
  by_cases hempty : folder = ""
  · simp [hempty]
  · by_cases hlast : folder.toList.getLast? = some '/'
    · simp [hempty, hlast]
    · simp [hempty, hlast]

theorem names_lead_append (folder back : String) : names (lead folder ++ back) = names folder ++ names back := by
  rw [lead]
  by_cases hempty : folder = ""
  · rw [if_pos (Or.inl hempty), hempty, String.empty_append, names_empty, List.nil_append]
  · by_cases hlast : folder.toList.getLast? = some '/'
    · -- the slash is there already, and nothing follows it in the folder itself
      obtain ⟨front, hfront⟩ := List.getLast?_eq_some_iff.mp hlast
      have hfolder : folder = String.ofList front ++ "/" := by
        rw [← String.toList_inj, hfront, String.toList_append, String.toList_ofList]
        rfl
      have hnames : names folder = names (String.ofList front) := by
        rw [hfolder, ← String.append_empty (s := _ ++ "/"), names_slash, names_empty, List.append_nil]
      rw [if_pos (Or.inr hlast), hnames, hfolder, names_slash]
    · rw [if_neg (by simp [hempty, hlast]), names_slash]

theorem isAbsolute_lead_append (folder : String) {back : String} (h : ¬IsAbsolute back) :
    IsAbsolute (lead folder ++ back) ↔ IsAbsolute folder := by
  rw [lead]
  by_cases hempty : folder = ""
  · rw [if_pos (Or.inl hempty), hempty, String.empty_append]
    exact iff_of_false h (by decide)
  · split
    · exact isAbsolute_append hempty back
    · rw [String.append_assoc]
      exact isAbsolute_append hempty _

theorem names_join {file : String} (h : ¬IsAbsolute file) (folder : String) :
    names (join folder file) = names folder ++ names file := by
  rw [join_eq h, names_lead_append]

theorem isAbsolute_join {file : String} (h : ¬IsAbsolute file) (folder : String) :
    IsAbsolute (join folder file) ↔ IsAbsolute folder := by
  rw [join_eq h, isAbsolute_lead_append folder h]

theorem join_inj {file file' : String} (h : ¬IsAbsolute file) (h' : ¬IsAbsolute file') (folder : String) :
    join folder file = join folder file' ↔ file = file' := by
  rw [join_eq h, join_eq h', String.append_right_inj]

/-! ## One path in two spellings -/

/-- The paths begin at the same place and go by the same names, so that they are one but for slashes and dots
that say nothing. -/
def Same (path path' : String) : Prop :=
  (IsAbsolute path ↔ IsAbsolute path') ∧ names path = names path'

instance (path path' : String) : Decidable (Same path path') :=
  inferInstanceAs (Decidable (_ ∧ _))

/-- No two of the paths are the same. -/
def Distinct (paths : List String) : Prop :=
  paths.Pairwise fun path path' => ¬Same path path'

instance (paths : List String) : Decidable (Distinct paths) :=
  inferInstanceAs (Decidable (List.Pairwise _ paths))

theorem same_join_of_relative {file file' : String} (h : ¬IsAbsolute file) (h' : ¬IsAbsolute file')
    (folder : String) : Same (join folder file) (join folder file') ↔ names file = names file' := by
  rw [Same, names_join h, names_join h', isAbsolute_join h, isAbsolute_join h', List.append_cancel_left_eq]
  simp

/-- The two names lead to one path in the folder. Both begin with a slash or neither does, and they go by the
same names; or only one begins with a slash, and it spells out the way to the other one. -/
def Meet (folder file file' : String) : Prop :=
  if IsAbsolute file then
    if IsAbsolute file' then names file = names file'
    else IsAbsolute folder ∧ names file = names folder ++ names file'
  else
    if IsAbsolute file' then IsAbsolute folder ∧ names file' = names folder ++ names file
    else names file = names file'

theorem same_join_iff (folder file file' : String) :
    Same (join folder file) (join folder file') ↔ Meet folder file file' := by
  rw [Meet]
  by_cases h : IsAbsolute file
  · by_cases h' : IsAbsolute file'
    · simp [Same, join_of_isAbsolute, h, h']
    · simp [Same, join_of_isAbsolute, isAbsolute_join, names_join, h, h']
  · by_cases h' : IsAbsolute file'
    · simp [Same, join_of_isAbsolute, isAbsolute_join, names_join, h, h', eq_comm]
    · simp [same_join_of_relative, h, h']

/-! ## The entries of a folder -/

/-- The text can be the name of an entry of a folder. -/
def IsEntryName (name : String) : Prop :=
  '/' ∉ name.toList ∧ name ≠ "" ∧ name ≠ "." ∧ name ≠ ".."

instance (name : String) : Decidable (IsEntryName name) :=
  inferInstanceAs (Decidable (_ ∧ _ ∧ _ ∧ _))

/-- The path is that of an entry of the folder, and not of anything below its entries or elsewhere. -/
def IsChild (folder path : String) : Prop :=
  ∃ name, IsEntryName name ∧ path = join folder name

theorem IsEntryName.names_eq {name : String} (h : IsEntryName name) : names name = [name] := by
  obtain ⟨hslash, hempty, hdot, _⟩ := h
  rw [names, splitSlashes_of_not_mem hslash, List.reverse_nil, List.nil_append, List.map_singleton,
    String.ofList_toList, List.filter_cons_of_pos (by simp [hempty, hdot]), List.filter_nil]

theorem isChild_join_iff {file : String} (h : ¬IsAbsolute file) (folder : String) :
    IsChild folder (join folder file) ↔ IsEntryName file := by
  constructor
  · rintro ⟨name, hname, heq⟩
    rwa [(join_inj h (not_isAbsolute_of_not_mem hname.1) folder).mp heq]
  · exact fun hfile => ⟨file, hfile, rfl⟩

end Path

theorem start_congr (d : Disk) {path path' : String} (h : Path.IsAbsolute path ↔ Path.IsAbsolute path') :
    d.start path = d.start path' :=
  ite_congr (propext h) (fun _ => rfl) (fun _ => rfl)

/-- An entry of a folder is found there. -/
theorem locate_join {d : Disk} {folder name : String} {p : Place} (hname : Path.IsEntryName name)
    (hfolder : d.enter (d.start folder) (Path.names folder) = .ok p) :
    d.locate (Path.join folder name) = .ok (p ++ [name]) := by
  have hrelative := Path.not_isAbsolute_of_not_mem hname.1
  have hstart := d.start_congr (Path.isAbsolute_join hrelative folder)
  have hstep : step p name = p ++ [name] := if_neg hname.2.2.2
  rw [locate, hstart, Path.names_join hrelative, hname.names_eq, List.getLast?_concat, List.dropLast_concat, hfolder]
  exact congrArg Except.ok hstep

end WireSchema.Disk
