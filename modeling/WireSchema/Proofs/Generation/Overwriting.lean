import WireSchema.Proofs.Generation.FileName
import WireSchema.Proofs.Generation.Order

/-!
Files in each other's way. A group is complete once and for all, so in a run every group is written once at most,
and the written paths are those of different groups. But the path is made from the names of the messages and not
from the key, and many names have one snake form; nothing compares it with the paths of other groups. So two files
have one path just when their names lead to one path in the destination, which for names without slashes means
that the snake forms of the base names are equal. The headers count as a group with the base name `headers`.
-/

namespace WireSchema.Generation

open WireSchema.Schema (Message)
open WireSchema.Disk

/-! ## One document -/

/-- A complete group stays as it is. -/
theorem Group.Extends.pair?_eq {g g' : Group} (h : g.Extends g') {pair : Pair} (hpair : g.slots.pair? = some pair) :
    g'.slots.pair? = some pair := by
  rw [Slots.pair?_eq_some] at hpair ⊢
  exact ⟨h.slots _ _ hpair.1, h.slots _ _ hpair.2⟩

theorem Slots.get_ne_none_of_pair? {s : Slots} {pair : Pair} (h : s.pair? = some pair) (slot : Slot) :
    s.get slot ≠ none := by
  have hsome := ((s.isSome_pair?_iff slot).mp (by rw [h]; rfl)).1
  intro hnone
  rw [hnone] at hsome
  cases hsome

/-- A path is reported for a file that came of the document. -/
theorem artifact_of_written [Source.Parser] {d : Disk} {result : Except Error (Option Artifact)} {path : String}
    (h : written? (deliverTo d result).2 = some path) : ∃ a : Artifact, result = .ok (some a) ∧ a.path = path := by
  rcases result with e | _ | a
  · cases h
  · cases h
  · cases hplace : a.place? d with
    | none =>
        obtain ⟨e, hdeliver⟩ := deliverTo_of_no_place hplace
        rw [hdeliver] at h
        cases h
    | some p =>
        rw [deliverTo_of_place hplace] at h
        exact ⟨a, rfl, Option.some.inj h⟩

/-- The document has completed a group, and its path is the one of that group. -/
theorem Workspace.group_of_written [Source.Parser] {w : Workspace} {doc : Document} {path : String}
    (h : written? (w.receive doc).2 = some path) :
    ∃ r pair slot, (w.generator.group r).slots.get slot = none ∧
      ((w.receive doc).1.generator.group r).slots.pair? = some pair ∧
      path = Path.join w.generator.destination (fileName w.generator.options pair r) := by
  rw [Workspace.receive_eq] at h ⊢
  rcases w.generator.receive_cases doc with ⟨e, _, hrefused⟩ | ⟨m, r, slot, haccepts⟩
  · rw [hrefused] at h
    cases h
  · obtain ⟨a, hreply, rfl⟩ := artifact_of_written h
    rw [haccepts.receive_eq] at hreply
    obtain ⟨pair, hpair, hpath⟩ := Generator.path_of_reply hreply
    refine ⟨r, pair, slot, haccepts.empty, ?_, Generator.pathOf_eq_ok hpath⟩
    rw [haccepts.group_receive, if_pos rfl]
    exact Except.ok.inj hpair

theorem written_note (r : Report) (path : String) (result : Except Error (Option String)) :
    (Workspace.note r path result).written = r.written ++ (written? result).toList := by
  rcases result with e | _ | written
  · exact (List.append_nil _).symm
  · exact (List.append_nil _).symm
  · rfl

/-! ## The groups of a run -/

/-- The written paths are those of different complete groups. -/
structure Traced (destination : String) (options : Options) (groups : List (Route × Pair)) (g : Generator)
    (written : List String) : Prop where
  destination_eq : g.destination = destination
  options_eq : g.options = options
  routes : (groups.map Prod.fst).Nodup
  complete : ∀ x ∈ groups, (g.group x.1).slots.pair? = some x.2
  paths : written = groups.map fun x => Path.join destination (fileName options x.2 x.1)

namespace Traced

variable {destination : String} {options : Options} {groups : List (Route × Pair)} {written : List String}

theorem create (destination : String) (options : Options) :
    Traced destination options [] (.create destination options) ({} : Report).written :=
  ⟨rfl, rfl, List.nodup_nil, fun _ hx => absurd hx List.not_mem_nil, rfl⟩

/-- What has been written before a document stays traced. -/
theorem keep {g : Generator} (h : Traced destination options groups g written) (doc : Document) :
    Traced destination options groups (g.receive doc).1 written := by
  constructor
  case destination_eq => rw [Generator.destination_receive, h.destination_eq]
  case options_eq => rw [Generator.options_receive, h.options_eq]
  case routes => exact h.routes
  case complete => exact fun x hx => (Generator.extends_receive g doc x.1).pair?_eq (h.complete x hx)
  case paths => exact h.paths

/-- One more group. -/
theorem add {g : Generator} (h : Traced destination options groups g written) {r : Route} {pair : Pair}
    (hnew : r ∉ groups.map Prod.fst) (hpair : (g.group r).slots.pair? = some pair) :
    Traced destination options (groups ++ [(r, pair)]) g
      (written ++ [Path.join destination (fileName options pair r)]) := by
  constructor
  case destination_eq => exact h.destination_eq
  case options_eq => exact h.options_eq
  case routes =>
    rw [List.map_append, List.map_singleton]
    refine List.nodup_append.mpr ⟨h.routes, List.pairwise_singleton _ _, ?_⟩
    rintro r' hold _ hlast rfl
    have heq : r' = r := List.mem_singleton.mp hlast
    exact hnew (heq ▸ hold)
  case complete =>
    intro x hx
    rcases List.mem_append.mp hx with hold | hlast
    · exact h.complete x hold
    · rwa [List.mem_singleton.mp hlast]
  case paths => rw [List.map_append, List.map_singleton, ← h.paths]

theorem receive [Source.Parser] {w : Workspace} (h : Traced destination options groups w.generator written)
    (doc : Document) :
    ∃ groups', Traced destination options groups' (w.receive doc).1.generator
      (written ++ (written? (w.receive doc).2).toList) := by
  have hkept : Traced destination options groups (w.receive doc).1.generator written := by
    rw [Workspace.receive_eq]
    exact h.keep doc
  cases hwritten : written? (w.receive doc).2 with
  | none => exact ⟨groups, by rwa [Option.toList_none, List.append_nil]⟩
  | some path =>
      obtain ⟨r, pair, slot, hempty, hpair, rfl⟩ := Workspace.group_of_written hwritten
      -- the group had an empty slot, so it is none of those that were complete
      have hnew : r ∉ groups.map Prod.fst := by
        intro hmem
        obtain ⟨x, hx, rfl⟩ := List.mem_map.mp hmem
        exact Slots.get_ne_none_of_pair? (h.complete x hx) slot hempty
      rw [h.destination_eq, h.options_eq]
      exact ⟨_, hkept.add hnew hpair⟩

/-- The documents of a run, one after another. -/
theorem runFrom [Source.Parser] (w : Workspace) {r : Report}
    (h : Traced destination options groups w.generator r.written) (paths : List String) :
    ∃ groups', Traced destination options groups' (w.runFrom r paths).1.generator (w.runFrom r paths).2.written := by
  induction paths generalizing w r groups with
  | nil => exact ⟨groups, h⟩
  | cons path paths ih =>
      obtain ⟨groups', hstep⟩ := h.receive ⟨path, loadFrom w.disk path⟩
      rw [← Workspace.process_eq, ← written_note r path] at hstep
      exact ih _ hstep

end Traced

/-! ## Names that meet -/

/-- The base name that a file is named after. The headers have one of their own. -/
def base (pair : Pair) : Route → String
  | .api _ => pair.request.baseName
  | .headers => "headers"

theorem fileName_default (pair : Pair) (r : Route) : fileName {} pair r = Name.snake (base pair r) ++ "_gen.rs" := by
  cases r with
  | api key => rfl
  | headers =>
      have hheaders : "headers_gen.rs" = Name.snake "headers" ++ "_gen.rs" := by decide
      exact hheaders

/-- Without slashes, it takes equal snake forms. -/
theorem meet_files_iff {base base' : String} (h : '/' ∉ base.toList) (h' : '/' ∉ base'.toList) (folder : String) :
    Path.Meet folder (Name.snake base ++ "_gen.rs") (Name.snake base' ++ "_gen.rs") ↔
      Name.snake base = Name.snake base' := by
  have hentry : ∀ {base : String}, '/' ∉ base.toList → Path.IsEntryName (Name.snake base ++ "_gen.rs") :=
    fun h => (isEntryName_file_iff (by decide) _).mpr ⟨h, by simp⟩
  rw [Path.Meet, if_neg (Path.not_isAbsolute_of_not_mem (hentry h).1),
    if_neg (Path.not_isAbsolute_of_not_mem (hentry h').1), (hentry h).names_eq, (hentry h').names_eq,
    List.singleton_inj, String.append_left_inj]

/-- With the default options, every path that is written is the one of a complete group, and of another group each
time. The paths are all different just when no two of these groups have file names that meet in the destination;
and if there are no slashes in the base names, just when the snake forms of the base names are all different. -/
theorem run_written_distinct_iff [Source.Parser] (disk : Disk) (destination : String) {sources : List String}
    {w : Workspace} {r : Report} (hrun : Workspace.run ⟨disk, .create destination {}⟩ sources = (w, r)) :
    ∃ groups : List (Route × Pair), (groups.map Prod.fst).Nodup ∧
      (∀ x ∈ groups, (w.generator.group x.1).slots.pair? = some x.2) ∧
      (r.written = groups.map fun x => Path.join destination (Name.snake (base x.2 x.1) ++ "_gen.rs")) ∧
      (Path.Distinct r.written ↔ groups.Pairwise fun x y => ¬Path.Meet destination
        (Name.snake (base x.2 x.1) ++ "_gen.rs") (Name.snake (base y.2 y.1) ++ "_gen.rs")) ∧
      ((∀ x ∈ groups, '/' ∉ (base x.2 x.1).toList) →
        (Path.Distinct r.written ↔ (groups.map fun x => Name.snake (base x.2 x.1)).Nodup)) := by
  obtain ⟨groups, htraced⟩ := (Traced.create destination {}).runFrom ⟨disk, .create destination {}⟩ sources
  rw [← Workspace.run, hrun] at htraced
  have hwritten := htraced.paths
  simp only [fileName_default] at hwritten
  have hdistinct : Path.Distinct r.written ↔ groups.Pairwise fun x y => ¬Path.Meet destination
      (Name.snake (base x.2 x.1) ++ "_gen.rs") (Name.snake (base y.2 y.1) ++ "_gen.rs") := by
    simp only [hwritten, Path.Distinct, List.pairwise_map, Path.same_join_iff]
  refine ⟨groups, htraced.routes, htraced.complete, hwritten, hdistinct, fun hslash => ?_⟩
  rw [hdistinct, List.Nodup, List.pairwise_map]
  refine List.Pairwise.iff_of_mem fun hx hy => ?_
  rw [meet_files_iff (hslash _ hx) (hslash _ hy)]

/-! ## Headers and an API of that name -/

namespace Workspace

variable [Source.Parser] {d d' : Disk} {g : Generator}

theorem runFrom_of_loaded {doc : Document} {report : Except Error (Option String)}
    (hload : loadFrom d doc.path = doc.loaded) (hdeliver : deliverTo d (g.receive doc).2 = (d', report)) (r : Report)
    (paths : List String) :
    runFrom ⟨d, g⟩ r (doc.path :: paths) = runFrom ⟨d', (g.receive doc).1⟩ (note r doc.path report) paths := by
  rw [runFrom, process_eq, hload, receive_eq, hdeliver]

/-- Two files, each after a document that waits. The sources that are read after the first file must be as they
were. -/
theorem run_two {first second third fourth : Document} {a b : Artifact} {p q : Place}
    (hfirst : loadFrom d first.path = first.loaded) (hsecond : loadFrom d second.path = second.loaded)
    (hthird : loadFrom (d.put p a.bytes) third.path = third.loaded)
    (hfourth : loadFrom (d.put p a.bytes) fourth.path = fourth.loaded)
    (ha : a.place? d = some p) (hb : b.place? d = some q)
    (hresults : (g.receiveAll [first, second, third, fourth]).2 =
      [.ok none, .ok (some a), .ok none, .ok (some b)]) :
    run ⟨d, g⟩ [first.path, second.path, third.path, fourth.path] =
      (⟨(d.put p a.bytes).put q b.bytes, (g.receiveAll [first, second, third, fourth]).1⟩,
        { written := [a.path, b.path]
          incomplete := (g.receiveAll [first, second, third, fourth]).1.incomplete }) := by
  simp only [Generator.receiveAll_cons, List.cons.injEq] at hresults
  obtain ⟨hresult₁, hresult₂, hresult₃, hresult₄, _⟩ := hresults
  have hb' : b.place? (d.put p a.bytes) = some q := (b.place?_of_sameFolders (.put d p a.bytes)).trans hb
  rw [run, runFrom_of_loaded hfirst (by rw [hresult₁, deliverTo_none]),
    runFrom_of_loaded hsecond (by rw [hresult₂, deliverTo_of_place ha]),
    runFrom_of_loaded hthird (by rw [hresult₃, deliverTo_none]),
    runFrom_of_loaded hfourth (by rw [hresult₄, deliverTo_of_place hb'])]
  rfl

end Workspace

namespace Sample

/-- The sources of the headers and of an API whose base name is that of the headers, each under the name of its
message. -/
def namesakes : Disk where
  files := [(["RequestHeader"], Text.Utf8.encode "\x7b\"type\":\"header\",\"name\":\"RequestHeader\"\x7d"),
    (["ResponseHeader"], Text.Utf8.encode "\x7b\"type\":\"header\",\"name\":\"ResponseHeader\"\x7d"),
    (["HeadersRequest"], Text.Utf8.encode "\x7b\"type\":\"request\",\"apiKey\":1,\"name\":\"HeadersRequest\"\x7d"),
    (["HeadersResponse"], Text.Utf8.encode "\x7b\"type\":\"response\",\"apiKey\":1,\"name\":\"HeadersResponse\"\x7d")]
  folders := [["out"]]

def namesakeSources : List String :=
  (headerDocuments ++ apiDocuments).map Document.path

/-- A message that has nothing but a kind, a name and perhaps a key is known by its parts. -/
theorem loaded_of_parts {result : Except Schema.Error Message} {apiKey : Option Int16} {kind : Schema.Kind}
    {name : String}
    (h : result.toOption.map (fun m => ((m.apiKey, m.kind, m.name), (m.validVersions, m.flexibleVersions, m.comments),
      m.fields.length, m.structures.length)) = some ((apiKey, kind, name), (none, none, ""), 0, 0)) :
    result = .ok { apiKey, kind, name } := by
  cases result with
  | error e => cases h
  | ok m =>
      obtain ⟨apiKey', kind', name', valid, flexible, fields, structures, comments⟩ := m
      simp only [Except.toOption, Option.map_some, Option.some.injEq, Prod.mk.injEq, List.length_eq_zero_iff] at h
      obtain ⟨⟨rfl, rfl, rfl⟩, ⟨rfl, rfl, rfl⟩, rfl, rfl⟩ := h
      rfl

theorem load_namesakes : ∀ doc ∈ headerDocuments ++ apiDocuments, loadFrom namesakes doc.path = doc.loaded := by
  simp only [headerDocuments, apiDocuments, List.cons_append, List.nil_append, List.forall_mem_cons]
  refine ⟨?_, ?_, ?_, ?_, fun _ hdoc => absurd hdoc List.not_mem_nil⟩
  all_goals exact loaded_of_parts (by decide +kernel)

/-- The place where both files go. -/
def headersPlace : Disk.Place := ["out", "headers_gen.rs"]

theorem load_namesakes_put (bytes : List UInt8) :
    ∀ doc ∈ apiDocuments, loadFrom (namesakes.put headersPlace bytes) doc.path = doc.loaded := by
  intro doc hdoc
  have hlocate : ∃ q, namesakes.locate doc.path = .ok q ∧ q ≠ headersPlace := by
    rcases List.mem_cons.mp hdoc with rfl | hdoc
    · exact ⟨["HeadersRequest"], by decide, by decide⟩
    · rw [List.mem_singleton.mp hdoc]
      exact ⟨["HeadersResponse"], by decide, by decide⟩
  obtain ⟨q, hq, hne⟩ := hlocate
  rw [← load_namesakes doc (List.mem_append_right _ hdoc), loadFrom, find_put_of_ne hq hne, loadFrom]

variable {headers api : Source.Sheet}

/-- Both groups are written, the second over the first. -/
theorem Sheets.run_namesakes (h : Sheets headers api) :
    Workspace.run ⟨namesakes, .create "out" {}⟩ namesakeSources =
      (⟨(namesakes.put headersPlace (headersArtifact "headers_gen.rs" headers).bytes).put headersPlace
          (apiArtifact api).bytes,
        ((workspace "headers_gen.rs").generator.receiveAll (headerDocuments ++ apiDocuments)).1⟩,
        { written := ["out/headers_gen.rs", "out/headers_gen.rs"] }) := by
  have hfolders : disk.SameFolders namesakes := ⟨rfl, rfl⟩
  have hplace : (headersArtifact "headers_gen.rs" headers).place? namesakes = some headersPlace := by
    rw [Artifact.place?_of_sameFolders _ hfolders]
    exact place?_sample h.headers_check rfl rfl (by decide +kernel)
  have hplace' : (apiArtifact api).place? namesakes = some headersPlace := by
    rw [Artifact.place?_of_sameFolders _ hfolders]
    exact h.place?_api "headers_gen.rs"
  have hload := load_namesakes_put (headersArtifact "headers_gen.rs" headers).bytes
  have hrun := Workspace.run_two (load_namesakes (loaded headerPair.request) (.head _))
    (load_namesakes (loaded headerPair.response) (.tail _ (.head _)))
    (hload (loaded apiPair.request) (.head _)) (hload (loaded apiPair.response) (.tail _ (.head _))) hplace hplace'
    (h.results_headersFirst "headers_gen.rs")
  have hpath : (headersArtifact "headers_gen.rs" headers).path = "out/headers_gen.rs" := by
    have hjoin : Path.join "out" "headers_gen.rs" = "out/headers_gen.rs" := by decide +kernel
    exact hjoin
  have hincomplete : ((workspace "headers_gen.rs").generator.receiveAll [loaded headerPair.request,
      loaded headerPair.response, loaded apiPair.request, loaded apiPair.response]).1.incomplete = [] := rfl
  rw [hpath, hincomplete] at hrun
  exact hrun

/-- The two groups are the only ones that are complete. -/
theorem mem_of_complete {r : Route} {pair : Pair}
    (h : (((workspace "headers_gen.rs").generator.receiveAll (headerDocuments ++ apiDocuments)).1.group r).slots.pair? =
      some pair) : (r, pair) ∈ [(.headers, headerPair), (.api 1, apiPair)] := by
  by_cases hheaders : r = .headers
  · subst hheaders
    have hpair : some headerPair = some pair := h
    rw [← Option.some.inj hpair]
    exact .head _
  · by_cases hapi : r = .api 1
    · subst hapi
      have hpair : some apiPair = some pair := h
      rw [← Option.some.inj hpair]
      exact .tail _ (.head _)
    · -- no document is for the group
      have hroutes : ∀ doc ∈ headerDocuments ++ apiDocuments, doc.route? ≠ some r := by
        intro doc hdoc hroute
        have hmem : doc.route? ∈ [some .headers, some (.api 1)] := by
          have hall : (headerDocuments ++ apiDocuments).map Document.route? ⊆ [some .headers, some (.api 1)] := by
            decide
          exact hall (List.mem_map_of_mem hdoc)
        simp [hroute, hheaders, hapi] at hmem
      rw [Generator.group_receiveAll_of_ne _ hroutes] at h
      cases r <;> cases h

end Sample

open Sample

/-- The headers and an API are complete, their base names have no slashes, and the snake forms are the same. -/
theorem run_written_distinct_namesakes : ∃ w r groups,
    Workspace.run ⟨namesakes, .create "out" {}⟩ namesakeSources = (w, r) ∧
      groups ⊆ [(.headers, headerPair), (.api 1, apiPair)] ∧ (groups.map Prod.fst).Nodup ∧
      (∀ x ∈ groups, '/' ∉ (base x.2 x.1).toList) ∧ groups.length = 2 ∧
      ¬(groups.map fun x => Name.snake (base x.2 x.1)).Nodup := by
  obtain ⟨headers, api, h⟩ := exists_sheets
  obtain ⟨groups, hroutes, hcomplete, hwritten, _, hdistinct⟩ := run_written_distinct_iff _ _ h.run_namesakes
  have hsub : groups ⊆ [(.headers, headerPair), (.api 1, apiPair)] := fun x hx => mem_of_complete (hcomplete x hx)
  have hslash : ∀ x ∈ groups, '/' ∉ (base x.2 x.1).toList := by
    have hbases : ∀ x ∈ [(.headers, headerPair), (.api 1, apiPair)], '/' ∉ (base x.2 x.1).toList := by decide
    exact fun x hx => hbases x (hsub hx)
  have hsame : ¬Path.Distinct ["out/headers_gen.rs", "out/headers_gen.rs"] := by decide
  exact ⟨_, _, groups, h.run_namesakes, hsub, hroutes, hslash, by simpa using (congrArg List.length hwritten).symm,
    fun hnodup => hsame ((hdistinct hslash).mpr hnodup)⟩

/-- A clean run in which the headers are written and then lost, since the file of the API goes to the same path. -/
theorem run_written_twice : ∃ headers api w r,
    Sheets headers api ∧ Workspace.run ⟨namesakes, .create "out" {}⟩ namesakeSources = (w, r) ∧
      r.isClean = true ∧ w.generator.compiled = 2 ∧ r.written = ["out/headers_gen.rs", "out/headers_gen.rs"] ∧
      ¬Path.Distinct r.written ∧
      w.disk.find "out/headers_gen.rs" = .ok (.file (Text.Utf8.encode api.text)) := by
  obtain ⟨headers, api, h⟩ := exists_sheets
  have hcompiled : ((workspace "headers_gen.rs").generator.receiveAll
      (headerDocuments ++ apiDocuments)).1.compiled = 2 := by
    decide +kernel
  exact ⟨headers, api, _, _, h, h.run_namesakes, rfl, hcompiled, rfl, by decide, rfl⟩

end WireSchema.Generation
