import WireSchema.Proofs.Generation.Delivery

/-!
Groups do not see each other. Two generators that agree on one group give the same results for the documents
of this group, and no other document can make them disagree on it. So what comes of the documents of a group
in a run is what comes of them in a run without all the others.
-/

namespace WireSchema.Generation

open WireSchema.Schema (Message)

/-- The documents of one group. -/
def documentsOn (r : Route) (docs : List Document) : List Document :=
  docs.filter fun doc => doc.route? = some r

/-- What came of the documents of one group, out of the results of a run. -/
def resultsOn {α : Type} (r : Route) (docs : List Document) (results : List α) : List α :=
  ((docs.zip results).filter fun p => p.1.route? = some r).map Prod.snd

theorem resultsOn_cons {α : Type} (r : Route) (doc : Document) (docs : List Document) (result : α)
    (results : List α) :
    resultsOn r (doc :: docs) (result :: results) =
      if doc.route? = some r then result :: resultsOn r docs results else resultsOn r docs results := by
  by_cases h : doc.route? = some r <;> simp [resultsOn, h]

theorem resultsOn_map {α β : Type} (f : α → β) (r : Route) (docs : List Document) (results : List α) :
    resultsOn r docs (results.map f) = (resultsOn r docs results).map f := by
  induction docs generalizing results with
  | nil => rfl
  | cons doc docs ih =>
      cases results with
      | nil => rfl
      | cons result results =>
          rw [List.map_cons, resultsOn_cons, resultsOn_cons, ih]
          by_cases h : doc.route? = some r
          · rw [if_pos h, if_pos h, List.map_cons]
          · rw [if_neg h, if_neg h]

theorem resultsOn_subset {α : Type} (r : Route) (docs : List Document) (results : List α) :
    resultsOn r docs results ⊆ results := by
  intro result hresult
  obtain ⟨⟨doc, _⟩, hp, rfl⟩ := List.mem_map.mp hresult
  exact (List.of_mem_zip (List.mem_filter.mp hp).1).2

namespace Generator

/-- The generators cannot be told apart by the documents of one group. -/
structure Agrees (r : Route) (g g' : Generator) : Prop where
  options : g'.options = g.options
  destination : g'.destination = g.destination
  group : g'.group r = g.group r

namespace Agrees

variable {r : Route} {g g' : Generator}

theorem refl (r : Route) (g : Generator) : Agrees r g g :=
  ⟨rfl, rfl, rfl⟩

theorem accepts (h : Agrees r g g') {doc : Document} {m : Message} {slot : Slot}
    (haccepts : g.Accepts doc m r slot) : g'.Accepts doc m r slot :=
  ⟨haccepts.loaded, haccepts.route, h.group ▸ haccepts.slotOf, h.group ▸ haccepts.empty⟩

theorem filled_eq (h : Agrees r g g') (m : Message) (slot : Slot) : g'.filled m r slot = g.filled m r slot := by
  rw [filled, filled, h.group]

/-- A document of the group. -/
theorem receive (h : Agrees r g g') {doc : Document} (hroute : doc.route? = some r) :
    (g'.receive doc).2 = (g.receive doc).2 ∧ Agrees r (g.receive doc).1 (g'.receive doc).1 := by
  rcases g.receive_cases doc with ⟨e, he, hrefused⟩ | ⟨m, r', slot, haccepts⟩
  · have hrefused' : g'.receive doc = (g', .error e) := by
      refine receive_of_extends hrefused he fun r' hr' => ?_
      obtain rfl : r = r' := Option.some.inj (hroute.symm.trans hr')
      exact h.group ▸ .refl _
    rw [hrefused, hrefused']
    exact ⟨rfl, h⟩
  · obtain rfl : r' = r := Option.some.inj (haccepts.route?_eq.symm.trans hroute)
    have haccepts' := h.accepts haccepts
    refine ⟨?_, ?_, ?_, ?_⟩
    · rw [haccepts.receive_eq, haccepts'.receive_eq, h.filled_eq, reply_congr h.options h.destination]
    · rw [options_receive, options_receive, h.options]
    · rw [destination_receive, destination_receive, h.destination]
    · rw [haccepts.group_receive, haccepts'.group_receive, if_pos rfl, if_pos rfl, h.filled_eq]

/-- A document of another group, or of none. -/
theorem receive_of_ne (h : Agrees r g g') {doc : Document} (hroute : doc.route? ≠ some r) :
    Agrees r (g.receive doc).1 g' := by
  refine ⟨?_, ?_, ?_⟩
  · rw [h.options, options_receive]
  · rw [h.destination, destination_receive]
  · rw [h.group, group_receive_of_ne g hroute]

/-- All documents against those of the group alone. -/
theorem receiveAll (h : Agrees r g g') (docs : List Document) :
    resultsOn r docs (g.receiveAll docs).2 = (g'.receiveAll (documentsOn r docs)).2 ∧
      Agrees r (g.receiveAll docs).1 (g'.receiveAll (documentsOn r docs)).1 := by
  induction docs generalizing g g' with
  | nil => exact ⟨rfl, h⟩
  | cons doc docs ih =>
      by_cases hroute : doc.route? = some r
      · obtain ⟨hresult, hagrees⟩ := h.receive hroute
        obtain ⟨hresults, hafter⟩ := ih hagrees
        have hdocs : documentsOn r (doc :: docs) = doc :: documentsOn r docs := by
          simp [documentsOn, hroute]
        rw [hdocs, receiveAll_cons, receiveAll_cons, resultsOn_cons, if_pos hroute]
        exact ⟨by rw [hresult, hresults], hafter⟩
      · have hdocs : documentsOn r (doc :: docs) = documentsOn r docs := by
          simp [documentsOn, hroute]
        rw [hdocs, receiveAll_cons, resultsOn_cons, if_neg hroute]
        exact ih (h.receive_of_ne hroute)

end Agrees

end Generator

section Parser

variable [Source.Parser]

/-- A document that is turned away changes nothing, neither a group nor a file. -/
theorem Workspace.receive_of_refused {w : Workspace} {doc : Document} {e : Error}
    (h : (w.receive doc).2 = .error e) (he : e.refuses) : (w.receive doc).1 = w := by
  rw [Workspace.receive_eq] at h ⊢
  cases hresult : (w.generator.receive doc).2 with
  | error e' =>
      rw [hresult] at h
      cases h
      rw [Generator.receive_of_refused hresult he]
      rfl
  | ok a =>
      rw [hresult] at h
      cases a with
      | none => cases h
      | some a =>
          -- a file that cannot be written is no reason to turn its document away
          cases hplace : a.place? w.disk with
          | some p =>
              rw [deliverTo_of_place hplace] at h
              cases h
          | none =>
              obtain ⟨t, hdeliver⟩ := deliverTo_of_no_place hplace
              rw [hdeliver] at h
              cases h
              cases he

namespace Workspace

/-- In a run over any documents, those of one group come to what they come to in a run without the others: the
same files to be written and the same errors, and the same group in the end. The reports are the same too if
what comes of writing a file depends only on its path and its text. A document that cannot be loaded, has no
slot or finds its slot filled leaves everything as it is. -/
theorem receiveAll_isolated (w : Workspace) (docs : List Document) :
    (∀ r, resultsOn r docs (w.generator.receiveAll docs).2 =
        (w.generator.receiveAll (documentsOn r docs)).2 ∧
      (w.generator.receiveAll docs).1.group r = (w.generator.receiveAll (documentsOn r docs)).1.group r) ∧
    (Steady w.disk ((w.generator.receiveAll docs).2.filterMap artifact?) →
      ∀ r, resultsOn r docs (w.receiveAll docs).2 = (w.receiveAll (documentsOn r docs)).2) ∧
    ∀ earlier doc later, docs = earlier ++ doc :: later →
      ∀ e, ((w.receiveAll earlier).1.receive doc).2 = .error e → e.refuses →
        ((w.receiveAll earlier).1.receive doc).1 = (w.receiveAll earlier).1 := by
  have hagrees : ∀ r, _ := fun r => (Generator.Agrees.refl r w.generator).receiveAll docs
  refine ⟨fun r => ⟨(hagrees r).1, (hagrees r).2.group.symm⟩, fun hsteady r => ?_,
    fun _ _ _ _ _ h he => receive_of_refused h he⟩
  have hsub : (w.generator.receiveAll (documentsOn r docs)).2.filterMap artifact? ⊆
      (w.generator.receiveAll docs).2.filterMap artifact? := by
    rw [← (hagrees r).1]
    exact List.filterMap_subset _ (resultsOn_subset r docs _)
  rw [receiveAll_eq, receiveAll_eq, hsteady.reports_deliverAllTo, (hsteady.mono hsub).reports_deliverAllTo,
    resultsOn_map, (hagrees r).1]

end Workspace

end Parser

namespace Workspace

section Sample

open Sample

/-- The headers around a request that comes twice and two documents that belong nowhere. -/
def mixedDocuments : List Document :=
  [loaded (header "RequestHeader"), unreadable, loaded (request "ARequest"), loaded (header "X"),
    loaded (request "BRequest"), loaded (header "ResponseHeader")]

theorem results_mixedDocuments :
    ((workspace "h_gen.rs").generator.receiveAll mixedDocuments).2 =
      [.ok none, .error (.load "x" (.unreadable "x" "")), .ok none,
        .error (.fault (.unexpectedHeader "X" "RequestHeader" "ResponseHeader")),
        .error (.conflict (apiLabel 1) .request "ARequest" "BRequest"),
        (workspace "h_gen.rs").generator.reply .headers (.ok (some headerPair))] := by
  rfl

theorem steady_mixedDocuments :
    Steady (workspace "h_gen.rs").disk
      (((workspace "h_gen.rs").generator.receiveAll mixedDocuments).2.filterMap artifact?) := by
  refine steady_of_located fun a ha => ⟨["out", "h_gen.rs"], ?_⟩
  obtain ⟨result, hresult, hartifact⟩ := List.mem_filterMap.mp ha
  -- only the last document completes a group
  have hreply : (workspace "h_gen.rs").generator.reply .headers (.ok (some headerPair)) = .ok (some a) := by
    rw [results_mixedDocuments] at hresult
    simp only [List.mem_cons, List.not_mem_nil, or_false] at hresult
    rcases hresult with rfl | rfl | rfl | rfl | rfl | rfl
    iterate 5 cases hartifact
    generalize Generator.reply _ _ _ = result at hartifact ⊢
    cases result <;> cases hartifact
    rfl
  obtain ⟨pair, _, hpath⟩ := Generator.path_of_reply hreply
  rw [← Except.ok.inj hpath]
  rfl

theorem receiveAll_isolated_mixedDocuments :
    (∀ r, resultsOn r mixedDocuments ((workspace "h_gen.rs").receiveAll mixedDocuments).2 =
      ((workspace "h_gen.rs").receiveAll (documentsOn r mixedDocuments)).2) ∧
    (((workspace "h_gen.rs").receiveAll (mixedDocuments.take 4)).1.receive (loaded (request "BRequest"))).1 =
      ((workspace "h_gen.rs").receiveAll (mixedDocuments.take 4)).1 := by
  obtain ⟨_, hreports, hrefused⟩ := receiveAll_isolated (workspace "h_gen.rs") mixedDocuments
  exact ⟨hreports steady_mixedDocuments,
    hrefused _ _ [loaded (header "ResponseHeader")] rfl
      (.conflict (apiLabel 1) .request "ARequest" "BRequest") rfl rfl⟩

end Sample

end Workspace

end WireSchema.Generation
