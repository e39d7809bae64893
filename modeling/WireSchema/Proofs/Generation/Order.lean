import WireSchema.Proofs.Generation.Delivery
import WireSchema.Proofs.Source.Check
import WireSchema.Proofs.Text.Utf8

/-!
The order of the documents. Two documents for different slots can change places: if they are for different
groups, then neither sees the other, and if they are for the two slots of one group, then the second to come
completes the same pair. So documents for slots that are all different can come in any order.
-/

namespace WireSchema.Generation

open WireSchema.Schema (Message)

namespace Slots

theorem set_comm (s : Slots) {slot slot' : Slot} (h : slot ≠ slot') (m m' : Message) :
    (s.set slot m).set slot' m' = (s.set slot' m').set slot m := by
  cases slot <;> cases slot' <;> first | rfl | exact absurd rfl h

end Slots

namespace Generator

/-- The group and the slot that a document is for. One that could not be loaded, or that no group can take, is
for none. -/
def target? (g : Generator) (doc : Document) : Option (Route × Slot) :=
  match doc.loaded with
  | .error _ => none
  | .ok m => (routeOf m).bind fun r => ((g.group r).slotOf m).toOption.map (r, ·)

theorem target?_receive (g : Generator) (doc doc' : Document) :
    (g.receive doc).1.target? doc' = g.target? doc' := by
  simp only [target?, (extends_receive g doc _).slotOf]

variable {g : Generator} {doc doc' : Document} {m m' : Message} {r r' : Route} {slot slot' : Slot}

theorem Accepts.target?_eq (h : g.Accepts doc m r slot) : g.target? doc = some (r, slot) := by
  simp only [target?, h.loaded, h.route, h.slotOf, Option.bind_some, Except.toOption, Option.map_some]

/-- A document for another slot does not stand in the way. -/
theorem Accepts.receive (h : g.Accepts doc m r slot) (htarget : g.target? doc' ≠ some (r, slot)) :
    (g.receive doc').1.Accepts doc m r slot := by
  refine ⟨h.loaded, h.route, ?_, ?_⟩
  · rw [(extends_receive g doc' r).slotOf, h.slotOf]
  · rcases g.receive_cases doc' with ⟨e, _, hrefused⟩ | ⟨m', r', slot', haccepts⟩
    · rw [hrefused, h.empty]
    · rw [haccepts.group_receive]
      by_cases hr : r' = r
      · subst hr
        have hslot : slot ≠ slot' := by
          rintro rfl
          exact htarget haccepts.target?_eq
        rw [if_pos rfl, filled, Group.slots_withSlots, Slots.get_set, if_neg hslot, h.empty]
      · rw [if_neg hr, h.empty]

theorem reply_receive (g : Generator) (doc : Document) : (g.receive doc).1.reply = g.reply :=
  reply_congr (options_receive g doc) (destination_receive g doc)

theorem compilations_receive (g : Generator) (doc : Document) :
    (g.receive doc).1.compilations = g.compilations :=
  compilations_congr (options_receive g doc) (destination_receive g doc)

/-! ## Two documents -/

/-- The documents can change places. -/
def Commute (g : Generator) (doc doc' : Document) : Prop :=
  ((g.receive doc).1.receive doc').1 = ((g.receive doc').1.receive doc).1 ∧
    [(g.receive doc).2, ((g.receive doc).1.receive doc').2].Perm
      [(g.receive doc').2, ((g.receive doc').1.receive doc).2]

theorem Commute.symm (h : g.Commute doc doc') : g.Commute doc' doc :=
  ⟨h.1.symm, h.2.symm⟩

theorem commute_of_refused {e : Error} (he : e.refuses) (h : g.receive doc = (g, .error e)) :
    g.Commute doc doc' := by
  have hlater : (g.receive doc').1.receive doc = ((g.receive doc').1, .error e) :=
    receive_of_extends h he fun r _ => extends_receive g doc' r
  rw [Commute, h, hlater]
  exact ⟨rfl, .swap _ _ _⟩

theorem commute_of_routes_ne (h : g.Accepts doc m r slot) (h' : g.Accepts doc' m' r' slot') (hne : r ≠ r') :
    g.Commute doc doc' := by
  have hafter : (g.receive doc').1.Accepts doc m r slot := h.receive (by simp [h'.target?_eq, hne.symm])
  have hafter' : (g.receive doc).1.Accepts doc' m' r' slot' := h'.receive (by simp [h.target?_eq, hne])
  -- each document finds its group as it was before the other
  have hfilled : (g.receive doc').1.filled m r slot = g.filled m r slot := by
    rw [filled, filled, h'.group_receive, if_neg hne.symm]
  have hfilled' : (g.receive doc).1.filled m' r' slot' = g.filled m' r' slot' := by
    rw [filled, filled, h.group_receive, if_neg hne]
  have hroutes : (g.filled m r slot).route ≠ (g.filled m' r' slot').route := by
    rwa [route_filled, route_filled]
  have hstep := h.receive_eq
  have hstep' := h'.receive_eq
  have hsecond := hafter.receive_eq
  have hsecond' := hafter'.receive_eq
  rw [hfilled, reply_receive, compilations_receive] at hsecond
  rw [hfilled', reply_receive, compilations_receive] at hsecond'
  refine ⟨?_, ?_⟩
  · rw [hsecond, hsecond', hstep, hstep', keep_charge, keep_charge, keep_comm g hroutes, charge_comm]
  · rw [hsecond, hsecond', hstep, hstep']
    exact .swap _ _ _

/-- The first of the two leaves its group waiting for the second. -/
theorem pair?_filled (h : g.Accepts doc' m' r slot') (hne : slot ≠ slot') :
    (g.filled m r slot).slots.pair? = none := by
  rw [filled, Group.slots_withSlots, ← Option.not_isSome_iff_eq_none, Slots.isSome_pair?_iff _ slot',
    Slots.get_set, if_neg hne.symm, h.empty]
  simp

theorem commute_of_slots_ne (h : g.Accepts doc m r slot) (h' : g.Accepts doc' m' r slot') (hne : slot ≠ slot') :
    g.Commute doc doc' := by
  have hafter : (g.receive doc').1.Accepts doc m r slot := h.receive (by simp [h'.target?_eq, hne.symm])
  have hafter' : (g.receive doc).1.Accepts doc' m' r slot' := h'.receive (by simp [h.target?_eq, hne])
  have hstep := h.receive_eq
  have hstep' := h'.receive_eq
  rw [pair?_filled h' hne] at hstep
  rw [pair?_filled h hne.symm] at hstep'
  -- the second document completes the group, and the slots hold the same in the end
  have hfilled : (g.receive doc').1.filled m r slot =
      (g.group r).withSlots (((g.group r).slots.set slot m).set slot' m') := by
    rw [filled, h'.group_receive, if_pos rfl, filled, Group.slots_withSlots, Group.withSlots_withSlots,
      Slots.set_comm _ hne]
  have hfilled' : (g.receive doc).1.filled m' r slot' =
      (g.group r).withSlots (((g.group r).slots.set slot m).set slot' m') := by
    rw [filled, h.group_receive, if_pos rfl, filled, Group.slots_withSlots, Group.withSlots_withSlots]
  have hsecond := hafter.receive_eq
  have hsecond' := hafter'.receive_eq
  rw [hfilled, reply_receive, compilations_receive] at hsecond
  rw [hfilled', reply_receive, compilations_receive] at hsecond'
  have hroute : ∀ (m : Message) (slot : Slot) (s : Slots),
      (g.filled m r slot).route = ((g.group r).withSlots s).route := fun m slot s => by
    rw [route_filled, Group.route_withSlots, route_group]
  refine ⟨?_, ?_⟩
  · rw [hsecond, hsecond', hstep, hstep', keep_charge, keep_charge, keep_keep _ (hroute m slot _),
      keep_keep _ (hroute m' slot' _)]
  · rw [hsecond, hsecond', hstep, hstep']

theorem commute_of_targets_ne (h : g.target? doc = none ∨ g.target? doc ≠ g.target? doc') :
    g.Commute doc doc' := by
  rcases g.receive_cases doc with ⟨e, he, hrefused⟩ | ⟨m, r, slot, haccepts⟩
  · exact commute_of_refused he hrefused
  · rcases g.receive_cases doc' with ⟨e, he, hrefused⟩ | ⟨m', r', slot', haccepts'⟩
    · exact (commute_of_refused he hrefused).symm
    · rw [haccepts.target?_eq, haccepts'.target?_eq] at h
      by_cases hr : r = r'
      · subst hr
        refine commute_of_slots_ne haccepts haccepts' ?_
        rintro rfl
        simp at h
      · exact commute_of_routes_ne haccepts haccepts' hr

/-! ## All documents -/

theorem receiveAll_perm {docs docs' : List Document} (hperm : docs.Perm docs') (g : Generator)
    (hnodup : (docs.filterMap g.target?).Nodup) :
    (g.receiveAll docs).1 = (g.receiveAll docs').1 ∧ (g.receiveAll docs).2.Perm (g.receiveAll docs').2 := by
  induction hperm generalizing g with
  | nil => exact ⟨rfl, .refl _⟩
  | @cons doc docs docs' hperm ih =>
      have htargets : (g.receive doc).1.target? = g.target? := funext (target?_receive g doc)
      have htail : (docs.filterMap (g.receive doc).1.target?).Nodup := by
        rw [htargets]
        exact hnodup.sublist ((List.sublist_cons_self doc docs).filterMap _)
      obtain ⟨hafter, hresults⟩ := ih (g.receive doc).1 htail
      exact ⟨hafter, hresults.cons _⟩
  | swap doc doc' docs =>
      have hne : g.target? doc = none ∨ g.target? doc ≠ g.target? doc' := by
        cases htarget : g.target? doc with
        | none => exact .inl rfl
        | some target =>
            refine .inr fun htarget' => ?_
            simp [htarget, ← htarget'] at hnodup
      obtain ⟨hafter, hresults⟩ := commute_of_targets_ne hne
      simp only [receiveAll_cons, hafter, true_and]
      exact (hresults.append_right _).symm
  | trans hperm hperm' ih ih' =>
      obtain ⟨hfirst, hresults⟩ := ih g hnodup
      obtain ⟨hsecond, hresults'⟩ := ih' g ((hperm.filterMap _).nodup hnodup)
      exact ⟨hfirst.trans hsecond, hresults.trans hresults'⟩

end Generator

/-! ## The files -/

section Parser

variable [Source.Parser]

/-- The path that is reported leads to the place that is written. -/
theorem locate_written (d : Disk) (result : Except Error (Option Artifact)) :
    (written? (deliverTo d result).2).map d.locate = (fileOf d result).map fun f => .ok f.1 := by
  rcases result with e | _ | a
  · rfl
  · rfl
  · simp only [fileOf, artifact?, Option.bind_some]
    cases hplace : a.place? d with
    | none =>
        obtain ⟨e, hdeliver⟩ := deliverTo_of_no_place hplace
        rw [hdeliver]
        rfl
    | some p =>
        rw [deliverTo_of_place hplace]
        exact congrArg some (Artifact.place?_eq_some.mp hplace).2.1

theorem map_locate_written (d : Disk) (results : List (Except Error (Option Artifact))) :
    (results.filterMap fun result => written? (deliverTo d result).2).map d.locate =
      ((results.filterMap (fileOf d)).map Prod.fst).map .ok := by
  rw [List.map_map, List.map_filterMap, List.map_filterMap]
  exact congrArg (List.filterMap · results) (funext (locate_written d))

namespace Workspace

/-- What two orders of the documents have in common. -/
structure SameOutcome (w : Workspace) (docs docs' : List Document) : Prop where
  written : ((w.receiveAll docs).2.filterMap written?).Perm ((w.receiveAll docs').2.filterMap written?)
  /-- The reason why a file could not be written is left out. -/
  failed : (((w.receiveAll docs).2.filterMap failed?).map Error.blurred).Perm
    (((w.receiveAll docs').2.filterMap failed?).map Error.blurred)
  /-- The reason is the same too if it does not depend on the files that are written before. -/
  failed_of_steady : Steady w.disk ((w.generator.receiveAll docs).2.filterMap artifact?) →
    ((w.receiveAll docs).2.filterMap failed?).Perm ((w.receiveAll docs').2.filterMap failed?)
  compiled : (w.receiveAll docs).1.generator.compiled = (w.receiveAll docs').1.generator.compiled
  incomplete : (w.receiveAll docs).1.generator.incomplete = (w.receiveAll docs').1.generator.incomplete
  /-- The written paths must lead to different places. -/
  contents : (((w.receiveAll docs).2.filterMap written?).map w.disk.locate).Nodup →
    ∀ path, (w.receiveAll docs).1.disk.find path = (w.receiveAll docs').1.disk.find path

/-- Documents that are all for different slots can be submitted in any order, if whether a file can be written
does not depend on the order. -/
theorem receiveAll_order_independent (w : Workspace) {docs docs' : List Document} (hperm : docs.Perm docs')
    (htargets : (docs.filterMap w.generator.target?).Nodup)
    (hsuccess : SteadySuccess w.disk ((w.generator.receiveAll docs).2.filterMap artifact?)) :
    w.SameOutcome docs docs' := by
  obtain ⟨hgenerator, hresults⟩ := Generator.receiveAll_perm hperm w.generator htargets
  have hartifacts := (hresults.symm.filterMap artifact?).subset
  have hsuccess' := hsuccess.mono hartifacts
  constructor
  case written =>
    rw [receiveAll_eq, receiveAll_eq, hsuccess.written_deliverAllTo, hsuccess'.written_deliverAllTo]
    exact hresults.filterMap _
  case failed =>
    rw [receiveAll_eq, receiveAll_eq, hsuccess.failed_deliverAllTo, hsuccess'.failed_deliverAllTo]
    exact hresults.filterMap _
  case failed_of_steady =>
    intro hsteady
    have hsteady' := hsteady.mono hartifacts
    rw [receiveAll_eq, receiveAll_eq, hsteady.reports_deliverAllTo, hsteady'.reports_deliverAllTo]
    exact (hresults.map _).filterMap _
  case compiled => rw [receiveAll_eq, receiveAll_eq, hgenerator]
  case incomplete => rw [receiveAll_eq, receiveAll_eq, hgenerator]
  case contents =>
    intro hplaces path
    rw [receiveAll_eq, hsuccess.written_deliverAllTo, map_locate_written] at hplaces
    have hnodup := List.Pairwise.of_map Except.ok (fun _ _ hne heq => hne (congrArg Except.ok heq)) hplaces
    rw [receiveAll_eq, receiveAll_eq, disk_deliverAllTo (.refl w.disk), disk_deliverAllTo (.refl w.disk)]
    exact ((w.disk.alike_putAll_of_perm (hresults.filterMap _) hnodup).find_eq path).symm

end Workspace

end Parser

/-! ## Headers and an API -/

namespace Sample

/-- An API whose file has the name that header files have by default. -/
def apiPair : Pair :=
  ⟨request "HeadersRequest", response "HeadersResponse"⟩

/-- A way from `out` to the file of that API. -/
def detour : String := "../out/headers_gen.rs"

/-- A file in a folder that has the name of that API's file. -/
def inside : String := "headers_gen.rs/h.rs"

def headersArtifact (headerFileName : String) (sheet : Source.Sheet) : Artifact :=
  ⟨headersLabel, Disk.Path.join "out" headerFileName, sheet⟩

def apiArtifact (sheet : Source.Sheet) : Artifact :=
  ⟨apiLabel 1, "out/headers_gen.rs", sheet⟩

def headerDocuments : List Document :=
  [loaded headerPair.request, loaded headerPair.response]

def apiDocuments : List Document :=
  [loaded apiPair.request, loaded apiPair.response]

/-- The sheets of the two groups. Both pass their checks. -/
structure Sheets (headers api : Source.Sheet) : Prop where
  headers_eq : Source.compileGroup Source.defaultRuntimePath [headerPair.request, headerPair.response] = .ok headers
  api_eq : Source.compileGroup Source.defaultRuntimePath [apiPair.request, apiPair.response] = .ok api
  headers_check : ∀ path, headers.check path = .ok ()
  api_check : ∀ path, api.check path = .ok ()
  bytes_ne : Text.Utf8.encode api.text ≠ Text.Utf8.encode headers.text

set_option maxRecDepth 100000 in
theorem exists_sheets : ∃ headers api, Sheets headers api := by
  -- the kernel compiles both groups and parses their texts
  obtain ⟨headers, headers_eq, headers_check, hlength⟩ := Source.exists_checked_sheet
    (by decide +kernel :
      (Source.compileGroup Source.defaultRuntimePath [headerPair.request, headerPair.response]).toOption.map
        (fun s => (Grammar.faultIn s.reversed.reverse, s.reversed.length)) = some (none, 1776))
  obtain ⟨api, api_eq, api_check, hlength'⟩ := Source.exists_checked_sheet
    (by decide +kernel :
      (Source.compileGroup Source.defaultRuntimePath [apiPair.request, apiPair.response]).toOption.map
        (fun s => (Grammar.faultIn s.reversed.reverse, s.reversed.length)) = some (none, 1978))
  refine ⟨headers, api, headers_eq, api_eq, headers_check, api_check, fun heq => ?_⟩
  have htext := congrArg String.length (Text.Utf8.encode_inj heq)
  omega

variable {headers api : Source.Sheet}

theorem Sheets.reply_headers (h : Sheets headers api) (file : String) :
    (workspace file).generator.reply .headers (.ok (some headerPair)) =
      .ok (some (headersArtifact file headers)) :=
  Generator.reply_of_compiled rfl h.headers_eq

theorem Sheets.reply_api (h : Sheets headers api) (file : String) :
    (workspace file).generator.reply (.api 1) (.ok (some apiPair)) =
      .ok (some (apiArtifact api)) := by
  have hrequest : apiPair.request.baseName = "Headers" := by decide +kernel
  have hresponse : apiPair.response.baseName = "Headers" := by decide +kernel
  have hsnake : Name.snake "Headers" = "headers" := by decide +kernel
  have hjoin : Disk.Path.join "out" ("headers" ++ "_gen.rs") = "out/headers_gen.rs" := by decide +kernel
  have hpath : (workspace file).generator.pathOf apiPair (.api 1) = .ok "out/headers_gen.rs" := by
    simp only [Generator.pathOf, Generator.apiFileName, hrequest, hresponse, hsnake, if_true]
    exact congrArg Except.ok hjoin
  exact Generator.reply_of_compiled hpath h.api_eq

theorem Sheets.results_headersFirst (h : Sheets headers api) (file : String) :
    ((workspace file).generator.receiveAll (headerDocuments ++ apiDocuments)).2 =
      [.ok none, .ok (some (headersArtifact file headers)), .ok none, .ok (some (apiArtifact api))] := by
  rw [← h.reply_headers file, ← h.reply_api file]
  rfl

theorem Sheets.results_apiFirst (h : Sheets headers api) (file : String) :
    ((workspace file).generator.receiveAll (apiDocuments ++ headerDocuments)).2 =
      [.ok none, .ok (some (apiArtifact api)), .ok none, .ok (some (headersArtifact file headers))] := by
  rw [← h.reply_headers file, ← h.reply_api file]
  rfl

theorem place?_sample {group path : String} {sheet : Source.Sheet} {p : Disk.Place}
    (hcheck : ∀ path, sheet.check path = .ok ()) (hlocate : disk.locate path = .ok p)
    (hfolder : disk.isFolder p = false) (hmeans : Disk.Path.meansFolder path = false) :
    (Artifact.mk group path sheet).place? disk = some p :=
  Artifact.place?_eq_some.mpr ⟨hcheck path, hlocate, hfolder, hmeans⟩

theorem Sheets.place?_api (h : Sheets headers api) (file : String) :
    (apiArtifact api).place? (workspace file).disk = some ["out", "headers_gen.rs"] :=
  place?_sample h.api_check rfl rfl (by decide +kernel)

theorem Sheets.steady (h : Sheets headers api) {file : String} {p : Disk.Place}
    (hplace : (headersArtifact file headers).place? (workspace file).disk = some p) :
    Steady (workspace file).disk
      (((workspace file).generator.receiveAll (headerDocuments ++ apiDocuments)).2.filterMap artifact?) := by
  rw [h.results_headersFirst file]
  refine steady_of_located fun a ha => ?_
  simp only [List.filterMap_cons, artifact?, List.filterMap_nil, List.mem_cons, List.not_mem_nil, or_false] at ha
  rcases ha with rfl | rfl
  · exact ⟨p, (Artifact.place?_eq_some.mp hplace).2.1⟩
  · exact ⟨["out", "headers_gen.rs"], (Artifact.place?_eq_some.mp (h.place?_api file)).2.1⟩

/-- Two files, each after a document that waits. -/
theorem deliverAllTo_two {d : Disk} {a b : Artifact} {p q : Disk.Place} (ha : a.place? d = some p)
    (hb : b.place? d = some q) :
    deliverAllTo d [.ok none, .ok (some a), .ok none, .ok (some b)] =
      ((d.put p a.bytes).put q b.bytes, [.ok none, .ok (some a.path), .ok none, .ok (some b.path)]) := by
  have hb' : b.place? (d.put p a.bytes) = some q := (b.place?_of_sameFolders (.put d p a.bytes)).trans hb
  simp only [deliverAllTo, deliverTo_none, deliverTo_of_place ha, deliverTo_of_place hb']

theorem deliverTo_of_locate_error {d : Disk} {a : Artifact} {t : Disk.Trouble}
    (hcheck : a.sheet.check a.path = .ok ()) (hlocate : d.locate a.path = .error t) :
    deliverTo d (.ok (some a)) = (d, .error (.compile a.group (.unwritable a.path t))) := by
  have hreplace : d.replace a.path (Text.Utf8.encode a.sheet.text) = .error t := by
    rw [Disk.replace, hlocate]
  simp only [deliverTo, Artifact.write, Source.Sheet.persist, hcheck, hreplace]
  rfl

end Sample

namespace Workspace

open Sample

/-- With the header file beside the file of the API, both are there in the end whichever comes first. -/
theorem receiveAll_order_independent_apart :
    ((workspace "h_gen.rs").receiveAll (headerDocuments ++ apiDocuments)).2 =
      [.ok none, .ok (some "out/h_gen.rs"), .ok none, .ok (some "out/headers_gen.rs")] ∧
    Steady (workspace "h_gen.rs").disk
      (((workspace "h_gen.rs").generator.receiveAll (headerDocuments ++ apiDocuments)).2.filterMap artifact?) ∧
    ((((workspace "h_gen.rs").receiveAll (headerDocuments ++ apiDocuments)).2.filterMap written?).map
      (workspace "h_gen.rs").disk.locate).Nodup ∧
    (workspace "h_gen.rs").SameOutcome (headerDocuments ++ apiDocuments) (apiDocuments ++ headerDocuments) := by
  obtain ⟨headers, api, h⟩ := exists_sheets
  have hplace : (headersArtifact "h_gen.rs" headers).place? (workspace "h_gen.rs").disk =
      some ["out", "h_gen.rs"] :=
    place?_sample h.headers_check rfl rfl (by decide +kernel)
  have hjoin : Disk.Path.join "out" "h_gen.rs" = "out/h_gen.rs" := by decide +kernel
  have hreports : ((workspace "h_gen.rs").receiveAll (headerDocuments ++ apiDocuments)).2 =
      [.ok none, .ok (some "out/h_gen.rs"), .ok none, .ok (some "out/headers_gen.rs")] := by
    rw [receiveAll_eq, h.results_headersFirst, deliverAllTo_two hplace (h.place?_api _), ← hjoin]
    rfl
  have hplaces : [["out", "h_gen.rs"], ["out", "headers_gen.rs"]].Nodup := by decide
  refine ⟨hreports, h.steady hplace, ?_, ?_⟩
  · rw [hreports]
    exact List.Pairwise.map Except.ok (fun _ _ hne heq => hne (Except.ok.inj heq)) hplaces
  · exact receiveAll_order_independent (workspace "h_gen.rs") List.perm_append_comm (by decide)
      (steadySuccess _ _)

/-- The written paths can be different and yet lead to one place, where the file that came last is left. -/
theorem contents_of_detour {headers api : Source.Sheet} (h : Sheets headers api) :
    (((workspace detour).receiveAll (headerDocuments ++ apiDocuments)).2.filterMap written?).Nodup ∧
    ((workspace detour).receiveAll (headerDocuments ++ apiDocuments)).1.disk.find "out/headers_gen.rs" ≠
      ((workspace detour).receiveAll (apiDocuments ++ headerDocuments)).1.disk.find "out/headers_gen.rs" := by
  have hplace : (headersArtifact detour headers).place? (workspace detour).disk =
      some ["out", "headers_gen.rs"] :=
    place?_sample h.headers_check rfl rfl (by decide +kernel)
  have hplace' := h.place?_api detour
  constructor
  · have hpaths : [Disk.Path.join "out" detour, "out/headers_gen.rs"].Nodup := by decide +kernel
    rw [receiveAll_eq, h.results_headersFirst, deliverAllTo_two hplace hplace']
    exact hpaths
  · rw [receiveAll_eq, receiveAll_eq, h.results_headersFirst, h.results_apiFirst, deliverAllTo_two hplace hplace',
      deliverAllTo_two hplace' hplace]
    intro hfind
    have hnode : (Except.ok (.file (apiArtifact api).bytes) : Except Disk.Trouble Disk.Node) =
        .ok (.file (headersArtifact detour headers).bytes) := hfind
    exact h.bytes_ne (Disk.Node.file.inj (Except.ok.inj hnode))

/-- A file whose folder is missing cannot be written, before and after a file is put in the place of the folder.
The reasons are different. -/
theorem failures_of_inside {headers api : Source.Sheet} (h : Sheets headers api) :
    ((workspace inside).receiveAll (headerDocuments ++ apiDocuments)).2.filterMap failed? =
      [.compile headersLabel (.unwritable "out/headers_gen.rs/h.rs" .notFound)] ∧
    ((workspace inside).receiveAll (apiDocuments ++ headerDocuments)).2.filterMap failed? =
      [.compile headersLabel (.unwritable "out/headers_gen.rs/h.rs" .notDirectory)] := by
  have hpath : (headersArtifact inside headers).path = "out/headers_gen.rs/h.rs" := by
    change Disk.Path.join "out" inside = "out/headers_gen.rs/h.rs"
    decide +kernel
  have hcheck := h.headers_check (headersArtifact inside headers).path
  have hplace := h.place?_api inside
  constructor
  · have hmissing := deliverTo_of_locate_error (d := (workspace inside).disk) (t := .notFound) hcheck
      (by rw [hpath]; rfl)
    rw [receiveAll_eq, h.results_headersFirst]
    simp only [deliverAllTo, deliverTo_none, hmissing, deliverTo_of_place hplace, hpath]
    rfl
  · have hblocked := deliverTo_of_locate_error (t := .notDirectory) hcheck
      (d := (workspace inside).disk.put ["out", "headers_gen.rs"] (apiArtifact api).bytes) (by rw [hpath]; rfl)
    rw [receiveAll_eq, h.results_apiFirst]
    simp only [deliverAllTo, deliverTo_none, deliverTo_of_place hplace, hblocked, hpath]
    rfl

/-- Neither the contents of different paths nor the reasons of failures are the same in every order. -/
theorem receiveAll_order_dependent :
    (headerDocuments ++ apiDocuments).Perm (apiDocuments ++ headerDocuments) ∧
    (((headerDocuments ++ apiDocuments).filterMap (workspace detour).generator.target?).Nodup ∧
      SteadySuccess (workspace detour).disk (((workspace detour).generator.receiveAll
        (headerDocuments ++ apiDocuments)).2.filterMap artifact?) ∧
      (((workspace detour).receiveAll (headerDocuments ++ apiDocuments)).2.filterMap written?).Nodup ∧
      ((workspace detour).receiveAll (headerDocuments ++ apiDocuments)).1.disk.find "out/headers_gen.rs" ≠
        ((workspace detour).receiveAll (apiDocuments ++ headerDocuments)).1.disk.find "out/headers_gen.rs") ∧
    (((headerDocuments ++ apiDocuments).filterMap (workspace inside).generator.target?).Nodup ∧
      SteadySuccess (workspace inside).disk (((workspace inside).generator.receiveAll
        (headerDocuments ++ apiDocuments)).2.filterMap artifact?) ∧
      ¬ (((workspace inside).receiveAll (headerDocuments ++ apiDocuments)).2.filterMap failed?).Perm
        (((workspace inside).receiveAll (apiDocuments ++ headerDocuments)).2.filterMap failed?)) := by
  obtain ⟨headers, api, h⟩ := exists_sheets
  obtain ⟨hnodup, hcontents⟩ := contents_of_detour h
  obtain ⟨hfirst, hsecond⟩ := failures_of_inside h
  refine ⟨List.perm_append_comm, ⟨by decide, steadySuccess _ _, hnodup, hcontents⟩, by decide, steadySuccess _ _, ?_⟩
  rw [hfirst, hsecond, List.singleton_perm_singleton]
  decide

end Workspace

end WireSchema.Generation
