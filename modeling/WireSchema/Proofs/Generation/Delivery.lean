import WireSchema.Proofs.Disk.Store
import WireSchema.Proofs.Generation.Routing

/-!
From groups to files. Submitting a document never looks at the disk, so a run is one of the generator alone,
which gives the files to be written, and after it the writing of these files in the same order. The folders
stay as they are all the time. Which files can be written is settled before the first one is.
-/

namespace WireSchema.Generation

open WireSchema.Schema (Message)

/-- The error without the reason why a file could not be written: all reasons are made one. -/
def Error.blurred : Error → Error
  | .compile group (.unwritable path _) => .compile group (.unwritable path .notFound)
  | e => e

section Parser

variable [Source.Parser]

/-! ## One file -/

theorem persist_eq_ok {s : Source.Sheet} {path : String} {d d' : Disk} :
    s.persist path d = .ok d' ↔
      s.check path = .ok () ∧ d.replace path (Text.Utf8.encode s.text) = .ok d' := by
  unfold Source.Sheet.persist
  cases s.check path with
  | error e => simp [bind, Except.bind]
  | ok u =>
      cases d.replace path (Text.Utf8.encode s.text) with
      | error t =>
          constructor
          · intro h
            cases h
          · rintro ⟨_, h⟩
            cases h
      | ok d'' =>
          constructor
          · intro h
            cases h
            exact ⟨rfl, rfl⟩
          · rintro ⟨_, h⟩
            cases h
            rfl

namespace Artifact

def bytes (a : Artifact) : List UInt8 :=
  Text.Utf8.encode a.sheet.text

/-- The disk and the report after an attempt to write the file on `d`. -/
def written (a : Artifact) (d : Disk) : Except Source.Error Disk → Disk × Except Error String
  | .ok d' => (d', .ok a.path)
  | .error e => (d, .error (.compile a.group e))

def write (a : Artifact) (d : Disk) : Disk × Except Error String :=
  a.written d (a.sheet.persist a.path d)

/-- Where the file is written, if it can be. -/
def place? (a : Artifact) (d : Disk) : Option Disk.Place :=
  match a.sheet.check a.path, d.locate a.path with
  | .ok (), .ok p => if d.isFolder p || Disk.Path.meansFolder a.path then none else some p
  | _, _ => none

theorem place?_eq_some {a : Artifact} {d : Disk} {p : Disk.Place} :
    a.place? d = some p ↔
      a.sheet.check a.path = .ok () ∧ d.locate a.path = .ok p ∧ d.isFolder p = false ∧
        Disk.Path.meansFolder a.path = false := by
  unfold place?
  cases a.sheet.check a.path with
  | error e => simp
  | ok u =>
      cases d.locate a.path with
      | error t => simp
      | ok q =>
          by_cases hp : q = p
          · subst hp
            cases hfolder : d.isFolder q <;> cases Disk.Path.meansFolder a.path <;> simp [hfolder]
          · cases d.isFolder q <;> cases Disk.Path.meansFolder a.path <;> simp [hp]

/-- Where a file is written depends on the folders only. -/
theorem place?_of_sameFolders (a : Artifact) {d d' : Disk} (h : d.SameFolders d') :
    a.place? d' = a.place? d := by
  refine Option.ext fun p => ?_
  rw [place?_eq_some, place?_eq_some, h.isFolder]
  exact and_congr_right fun _ => and_congr_left fun _ => ⟨h.symm.locate, h.locate⟩

theorem write_of_place {a : Artifact} {d : Disk} {p : Disk.Place} (h : a.place? d = some p) :
    a.write d = (d.put p a.bytes, .ok a.path) := by
  obtain ⟨hcheck, hlocate, hfolder, hmeans⟩ := place?_eq_some.mp h
  have hpersist : a.sheet.persist a.path d = .ok (d.put p a.bytes) :=
    persist_eq_ok.mpr ⟨hcheck, Disk.replace_eq_ok.mpr ⟨p, hlocate, hfolder, hmeans, rfl⟩⟩
  rw [write, hpersist, written]

theorem write_of_no_place {a : Artifact} {d : Disk} (h : a.place? d = none) :
    ∃ e, a.write d = (d, .error (.compile a.group e)) := by
  cases hpersist : a.sheet.persist a.path d with
  | error e => exact ⟨e, by rw [write, hpersist, written]⟩
  | ok d' =>
      obtain ⟨hcheck, hreplace⟩ := persist_eq_ok.mp hpersist
      obtain ⟨p, hlocate, hfolder, hmeans, _⟩ := Disk.replace_eq_ok.mp hreplace
      cases h.symm.trans (place?_eq_some.mpr ⟨hcheck, hlocate, hfolder, hmeans⟩)

/-- A file is written if it has a place. -/
theorem isOk_write (a : Artifact) (d : Disk) : (a.write d).2.isOk = (a.place? d).isSome := by
  cases h : a.place? d with
  | none =>
      obtain ⟨e, hwrite⟩ := write_of_no_place h
      rw [hwrite]
      rfl
  | some p =>
      rw [write_of_place h]
      rfl

/-- Two attempts that both succeed or both fail differ at most in the reason that the disk gives. -/
theorem blurred_write (a : Artifact) {d d' : Disk} (h : (a.write d').2.isOk = (a.write d).2.isOk) :
    (a.write d').2.mapError Error.blurred = (a.write d).2.mapError Error.blurred := by
  revert h
  simp only [write, Source.Sheet.persist]
  cases a.sheet.check a.path with
  | error e => exact fun _ => rfl
  | ok u =>
      cases d.replace a.path (Text.Utf8.encode a.sheet.text) with
      | error t =>
          cases d'.replace a.path (Text.Utf8.encode a.sheet.text) with
          | error t' => exact fun _ => rfl
          | ok _ =>
              intro h
              cases h
      | ok _ =>
          cases d'.replace a.path (Text.Utf8.encode a.sheet.text) with
          | error t' =>
              intro h
              cases h
          | ok _ => exact fun _ => rfl

theorem sameFolders_write (a : Artifact) (d : Disk) : d.SameFolders (a.write d).1 := by
  cases h : a.place? d with
  | none =>
      obtain ⟨e, hwrite⟩ := write_of_no_place h
      rw [hwrite]
      exact .refl d
  | some p =>
      rw [write_of_place h]
      exact .put d p a.bytes

/-- If its path leads to a place, then what comes of a file does not depend on other files. -/
theorem write_result_of_located (a : Artifact) {d d' : Disk} (h : d.SameFolders d') {p : Disk.Place}
    (hp : d.locate a.path = .ok p) : (a.write d').2 = (a.write d).2 := by
  simp only [write, Source.Sheet.persist]
  cases a.sheet.check a.path with
  | error e => rfl
  | ok u =>
      cases hreplace : d.replace a.path (Text.Utf8.encode a.sheet.text) with
      | error t =>
          rw [(Disk.replace_eq_error h hp _ t).mpr hreplace]
          rfl
      | ok d'' =>
          cases hreplace' : d'.replace a.path (Text.Utf8.encode a.sheet.text) with
          | ok _ => rfl
          | error t => cases hreplace.symm.trans ((Disk.replace_eq_error h hp _ t).mp hreplace')

end Artifact

/-! ## The results of a run -/

def artifact? : Except Error (Option Artifact) → Option Artifact
  | .ok a => a
  | .error _ => none

def written? : Except Error (Option String) → Option String
  | .ok path => path
  | .error _ => none

def failed? {α : Type} : Except Error α → Option Error
  | .ok _ => none
  | .error e => some e

/-- Writes the file that came of a document, if one did; gives what is reported of the document. -/
def deliverTo (d : Disk) : Except Error (Option Artifact) → Disk × Except Error (Option String)
  | .error e => (d, .error e)
  | .ok none => (d, .ok none)
  | .ok (some a) => ((a.write d).1, (a.write d).2.map some)

def deliverAllTo (d : Disk) : List (Except Error (Option Artifact)) → Disk × List (Except Error (Option String))
  | [] => (d, [])
  | result :: results =>
    let (d, report) := deliverTo d result
    let (d, reports) := deliverAllTo d results
    (d, report :: reports)

theorem deliverTo_none (d : Disk) : deliverTo d (.ok none) = (d, .ok none) :=
  rfl

theorem deliverTo_of_place {d : Disk} {a : Artifact} {p : Disk.Place} (h : a.place? d = some p) :
    deliverTo d (.ok (some a)) = (d.put p a.bytes, .ok (some a.path)) := by
  rw [deliverTo, Artifact.write_of_place h]
  rfl

theorem deliverTo_of_no_place {d : Disk} {a : Artifact} (h : a.place? d = none) :
    ∃ e, deliverTo d (.ok (some a)) = (d, .error (.compile a.group e)) := by
  obtain ⟨e, hwrite⟩ := Artifact.write_of_no_place h
  exact ⟨e, by rw [deliverTo, hwrite]; rfl⟩

namespace Workspace

theorem deliver_eq (w : Workspace) (a : Artifact) :
    w.deliver a = ({ w with disk := (a.write w.disk).1 }, (a.write w.disk).2) := by
  delta deliver Artifact.write
  cases a.sheet.persist a.path w.disk <;> rfl

def receive (w : Workspace) (doc : Document) : Workspace × Except Error (Option String) :=
  match doc.loaded with
  | .error e => (w, .error (.load doc.path e))
  | .ok m => w.submit m

def receiveAll (w : Workspace) : List Document → Workspace × List (Except Error (Option String))
  | [] => (w, [])
  | doc :: docs =>
    let (w, result) := w.receive doc
    let (w, results) := receiveAll w docs
    (w, result :: results)

theorem process_eq (w : Workspace) (path : String) :
    w.process path = w.receive ⟨path, loadFrom w.disk path⟩ := by
  unfold process receive
  cases loadFrom w.disk path <;> rfl

/-- A document changes the generator as if there were no disk, and the disk by the file that comes of it. -/
theorem receive_eq (w : Workspace) (doc : Document) :
    w.receive doc =
      (⟨(deliverTo w.disk (w.generator.receive doc).2).1, (w.generator.receive doc).1⟩,
        (deliverTo w.disk (w.generator.receive doc).2).2) := by
  rw [receive, Generator.receive]
  cases doc.loaded with
  | error e => rfl
  | ok m =>
      simp only [submit]
      rcases w.generator.submit m with ⟨g, e | _ | a⟩
      · rfl
      · rfl
      · simp only [deliver_eq, deliverTo]

theorem receiveAll_eq (w : Workspace) (docs : List Document) :
    w.receiveAll docs =
      (⟨(deliverAllTo w.disk (w.generator.receiveAll docs).2).1, (w.generator.receiveAll docs).1⟩,
        (deliverAllTo w.disk (w.generator.receiveAll docs).2).2) := by
  induction docs generalizing w with
  | nil => rfl
  | cons doc docs ih =>
      rw [receiveAll, receive_eq, Generator.receiveAll]
      simp only [ih, deliverAllTo]

end Workspace

theorem sameFolders_deliverTo (d : Disk) (result : Except Error (Option Artifact)) :
    d.SameFolders (deliverTo d result).1 := by
  rcases result with e | _ | a
  · exact .refl d
  · exact .refl d
  · exact a.sameFolders_write d

/-- The place and the content of the file that came of a document. -/
def fileOf (d : Disk) (result : Except Error (Option Artifact)) : Option (Disk.Place × List UInt8) :=
  (artifact? result).bind fun a => (a.place? d).map (·, a.bytes)

theorem disk_deliverAllTo {d d' : Disk} (h : d.SameFolders d')
    (results : List (Except Error (Option Artifact))) :
    (deliverAllTo d' results).1 = d'.putAll (results.filterMap (fileOf d)) := by
  induction results generalizing d' with
  | nil => rfl
  | cons result results ih =>
      simp only [deliverAllTo, ih (h.trans (sameFolders_deliverTo d' result))]
      rcases result with e | _ | a
      · rfl
      · rfl
      · have hsame := a.place?_of_sameFolders h
        simp only [fileOf, artifact?, Option.bind_some, List.filterMap_cons]
        cases hplace : a.place? d with
        | none =>
            obtain ⟨e, hdeliver⟩ := deliverTo_of_no_place (hsame.trans hplace)
            rw [hdeliver]
            rfl
        | some p =>
            rw [deliverTo_of_place (hsame.trans hplace)]
            rfl

/-! ## Steady disks -/

def writeAll (d : Disk) : List Artifact → Disk
  | [] => d
  | a :: as => writeAll (a.write d).1 as

theorem sameFolders_writeAll (d : Disk) (as : List Artifact) : d.SameFolders (writeAll d as) := by
  induction as generalizing d with
  | nil => exact .refl d
  | cons a as ih => exact (a.sameFolders_write d).trans (ih _)

theorem writeAll_append (d : Disk) (as bs : List Artifact) :
    writeAll d (as ++ bs) = writeAll (writeAll d as) bs := by
  induction as generalizing d with
  | nil => rfl
  | cons a as ih => exact ih _

/-- What comes of writing one of the files depends on its path and its text only, not on which of them have
been written before it. -/
def Steady (d : Disk) (as : List Artifact) : Prop :=
  ∀ earlier, earlier ⊆ as → ∀ a ∈ as, (a.write (writeAll d earlier)).2 = (a.write d).2

/-- Whether writing one of the files succeeds depends on its path and its text only. Why it fails may depend on
the files that have been written before it. -/
def SteadySuccess (d : Disk) (as : List Artifact) : Prop :=
  ∀ earlier, earlier ⊆ as → ∀ a ∈ as, (a.write (writeAll d earlier)).2.isOk = (a.write d).2.isOk

theorem Steady.mono {d : Disk} {as as' : List Artifact} (h : Steady d as) (hsub : as' ⊆ as) : Steady d as' :=
  fun earlier hearlier a ha => h earlier (List.Subset.trans hearlier hsub) a (hsub ha)

theorem SteadySuccess.mono {d : Disk} {as as' : List Artifact} (h : SteadySuccess d as) (hsub : as' ⊆ as) :
    SteadySuccess d as' :=
  fun earlier hearlier a ha => h earlier (List.Subset.trans hearlier hsub) a (hsub ha)

/-- A disk is steady for files whose folders are all there. -/
theorem steady_of_located {d : Disk} {as : List Artifact} (h : ∀ a ∈ as, ∃ p, d.locate a.path = .ok p) :
    Steady d as := by
  intro earlier _ a ha
  obtain ⟨p, hp⟩ := h a ha
  exact a.write_result_of_located (sameFolders_writeAll d earlier) hp

/-- No file takes the room of another, and none makes or removes a folder. -/
theorem steadySuccess (d : Disk) (as : List Artifact) : SteadySuccess d as := by
  intro earlier _ a _
  rw [a.isOk_write, a.isOk_write, a.place?_of_sameFolders (sameFolders_writeAll d earlier)]

theorem disk_deliverTo (d : Disk) (result : Except Error (Option Artifact)) :
    (deliverTo d result).1 = writeAll d (artifact? result).toList := by
  rcases result with e | _ | a <;> rfl

/-- What of a report does not depend on the files that are written before is, for every document, what it would
be if the document were the first one. -/
theorem map_reports_deliverAllTo {β : Type} (view : Except Error (Option String) → β) {d : Disk}
    {results : List (Except Error (Option Artifact))}
    (h : ∀ earlier, earlier ⊆ results.filterMap artifact? → ∀ result ∈ results,
      view (deliverTo (writeAll d earlier) result).2 = view (deliverTo d result).2) :
    (deliverAllTo d results).2.map view = results.map fun result => view (deliverTo d result).2 := by
  -- the part of the run that is behind, `before`, has written its files: `writeAll d (before.filterMap artifact?)`
  suffices hrun : ∀ rest before : List (Except Error (Option Artifact)), results = before ++ rest →
      (deliverAllTo (writeAll d (before.filterMap artifact?)) rest).2.map view =
        rest.map fun result => view (deliverTo d result).2 from hrun results [] rfl
  intro rest
  induction rest with
  | nil => exact fun _ _ => rfl
  | cons result rest ih =>
      intro before hresults
      have hbefore : before.filterMap artifact? ⊆ results.filterMap artifact? := by
        rw [hresults, List.filterMap_append]
        exact List.subset_append_left _ _
      have hdisk : (deliverTo (writeAll d (before.filterMap artifact?)) result).1 =
          writeAll d ((before ++ [result]).filterMap artifact?) := by
        rw [disk_deliverTo, ← writeAll_append, List.filterMap_append]
        cases h : artifact? result <;> simp [h]
      simp only [deliverAllTo, List.map_cons, h _ hbefore result (by simp [hresults]), hdisk]
      rw [ih (before ++ [result]) (by simp [hresults])]

variable {d : Disk} {results : List (Except Error (Option Artifact))}

/-- On a steady disk every document is reported as if it were the first one. -/
theorem Steady.reports_deliverAllTo (h : Steady d (results.filterMap artifact?)) :
    (deliverAllTo d results).2 = results.map fun result => (deliverTo d result).2 := by
  rw [← List.map_id (deliverAllTo d results).2]
  refine map_reports_deliverAllTo id fun earlier hearlier result hresult => ?_
  rcases result with e | _ | a
  · rfl
  · rfl
  · simp only [deliverTo, h earlier hearlier a (List.mem_filterMap.mpr ⟨_, hresult, rfl⟩)]

/-- If success is steady, then every document is reported as if it were the first one, but for the reason why a
file could not be written. -/
theorem SteadySuccess.reports_deliverAllTo (h : SteadySuccess d (results.filterMap artifact?)) :
    (deliverAllTo d results).2.map (Except.mapError Error.blurred) =
      results.map fun result => (deliverTo d result).2.mapError Error.blurred := by
  refine map_reports_deliverAllTo _ fun earlier hearlier result hresult => ?_
  rcases result with e | _ | a
  · rfl
  · rfl
  · have hok := h earlier hearlier a (List.mem_filterMap.mpr ⟨_, hresult, rfl⟩)
    have hmap : ∀ report : Except Error String,
        (report.map some).mapError Error.blurred = (report.mapError Error.blurred).map some
      | .ok _ => rfl
      | .error _ => rfl
    simp only [deliverTo, hmap, a.blurred_write hok]

theorem SteadySuccess.written_deliverAllTo (h : SteadySuccess d (results.filterMap artifact?)) :
    (deliverAllTo d results).2.filterMap written? =
      results.filterMap fun result => written? (deliverTo d result).2 := by
  have hview : ∀ report : Except Error (Option String), written? (report.mapError Error.blurred) = written? report
    | .ok _ => rfl
    | .error _ => rfl
  have hreports := congrArg (List.filterMap written?) h.reports_deliverAllTo
  simpa only [List.filterMap_map, Function.comp_def, hview] using hreports

theorem SteadySuccess.failed_deliverAllTo (h : SteadySuccess d (results.filterMap artifact?)) :
    ((deliverAllTo d results).2.filterMap failed?).map Error.blurred =
      results.filterMap fun result => (failed? (deliverTo d result).2).map Error.blurred := by
  have hview : ∀ report : Except Error (Option String),
      failed? (report.mapError Error.blurred) = (failed? report).map Error.blurred
    | .ok _ => rfl
    | .error _ => rfl
  have hreports := congrArg (List.filterMap failed?) h.reports_deliverAllTo
  simpa only [List.filterMap_map, List.map_filterMap, Function.comp_def, hview] using hreports

end Parser

/-! ## A small workspace -/

namespace Sample

def header (name : String) : Message :=
  { kind := .header, name }

def request (name : String) : Message :=
  { kind := .request, apiKey := some 1, name }

def response (name : String) : Message :=
  { kind := .response, apiKey := some 1, name }

def headerPair : Pair :=
  ⟨header "RequestHeader", header "ResponseHeader"⟩

def loaded (m : Message) : Document :=
  ⟨m.name, .ok m⟩

def unreadable : Document :=
  ⟨"x", .error (.unreadable "x" "")⟩

def disk : Disk :=
  { folders := [["out"]] }

/-- A new generator with the destination `out`, which is there. -/
def workspace (headerFileName : String) : Workspace :=
  ⟨disk, .create "out" { headerFileName }⟩

end Sample

end WireSchema.Generation
