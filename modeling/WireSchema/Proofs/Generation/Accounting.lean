import WireSchema.Proofs.Generation.Delivery

/-!
The accounts of a run. Messages are kept in slots, compilations are counted by the generator, and what came of
each document is taken down in the report; the numbers agree after every document. A document is either turned
away or kept. If it completes a group, then it is reported in one of three ways: as a written file, as a group
whose names do not fit or as one that could not be compiled or written.
-/

namespace WireSchema.Generation

open WireSchema.Schema (Message)

namespace Slots

/-- The number of messages in the slots. -/
def count (s : Slots) : Nat :=
  s.request.isSome.toNat + s.response.isSome.toNat

def full (s : Slots) : Nat :=
  s.pair?.isSome.toNat

def waiting (s : Slots) : Nat :=
  s.missing.isSome.toNat

theorem count_eq (s : Slots) : s.count = s.waiting + 2 * s.full := by
  rcases s with ⟨_ | _, _ | _⟩ <;> rfl

theorem count_set (s : Slots) {slot : Slot} (h : s.get slot = none) (m : Message) :
    (s.set slot m).count = s.count + 1 := by
  rcases s with ⟨_ | _, _ | _⟩ <;> cases slot <;> first | rfl | cases h

theorem full_of_get_eq_none (s : Slots) {slot : Slot} (h : s.get slot = none) : s.full = 0 := by
  rcases s with ⟨_ | _, _ | _⟩ <;> cases slot <;> first | rfl | cases h

end Slots

/-! ## Tables in order -/

namespace ApiTable

/-- The keys increase, so that there is one group for each. -/
def Ordered (t : ApiTable) : Prop :=
  t.Pairwise fun g h => g.key.toInt < h.key.toInt

theorem mem_insert {g h : ApiGroup} {t : ApiTable} (hmem : h ∈ insert g t) : h = g ∨ h ∈ t := by
  induction t with
  | nil => exact Or.inl (List.mem_singleton.mp hmem)
  | cons k t ih =>
      rcases insert_cases g k t with ⟨_, heq⟩ | ⟨_, heq⟩ | ⟨_, heq⟩ <;>
        rw [heq, List.mem_cons] at hmem
      · exact hmem
      · rcases hmem with rfl | hmem
        · exact Or.inr List.mem_cons_self
        · exact (ih hmem).imp_right (List.mem_cons_of_mem k)
      · exact hmem.imp_right (List.mem_cons_of_mem k)

theorem Ordered.insert {t : ApiTable} (h : t.Ordered) (g : ApiGroup) : Ordered (insert g t) := by
  induction t with
  | nil => exact List.pairwise_singleton _ g
  | cons k t ih =>
      obtain ⟨hhead, htail⟩ := List.pairwise_cons.mp h
      rcases insert_cases g k t with ⟨hlt, heq⟩ | ⟨hlt, heq⟩ | ⟨hkey, heq⟩ <;>
        rw [heq, Ordered, List.pairwise_cons]
      · refine ⟨fun x hx => ?_, h⟩
        rcases List.mem_cons.mp hx with rfl | hx
        · exact hlt
        · exact Int.lt_trans hlt (hhead x hx)
      · refine ⟨fun x hx => ?_, ih htail⟩
        rcases mem_insert hx with rfl | hx
        · exact hlt
        · exact hhead x hx
      · rw [hkey]
        exact ⟨hhead, htail⟩

theorem find_of_forall_ne {t : ApiTable} {key : Int16} (h : ∀ g ∈ t, g.key ≠ key) : t.find key = { key } := by
  induction t with
  | nil => rfl
  | cons g t ih =>
      rw [find_cons, if_neg (h g List.mem_cons_self)]
      exact ih fun k hk => h k (List.mem_cons_of_mem g hk)

theorem Ordered.find_of_mem {t : ApiTable} (h : t.Ordered) {g : ApiGroup} (hg : g ∈ t) : t.find g.key = g := by
  induction t with
  | nil => cases hg
  | cons k t ih =>
      obtain ⟨hhead, htail⟩ := List.pairwise_cons.mp h
      rw [find_cons]
      rcases List.mem_cons.mp hg with rfl | hg
      · rw [if_pos rfl]
      · have hne : k.key ≠ g.key := fun hkey => by
          have hlt := hhead g hg
          rw [hkey] at hlt
          omega
        rw [if_neg hne, ih htail hg]

theorem find_cases (t : ApiTable) (key : Int16) : t.find key ∈ t ∨ t.find key = { key } := by
  induction t with
  | nil => exact Or.inr rfl
  | cons g t ih =>
      rw [find_cons]
      by_cases hkey : g.key = key
      · rw [if_pos hkey]
        exact Or.inl List.mem_cons_self
      · rw [if_neg hkey]
        exact ih.imp_left (List.mem_cons_of_mem g)

/-- The sum of a number over the groups. -/
def total (f : Slots → Nat) : ApiTable → Nat
  | [] => 0
  | g :: t => f g.slots + total f t

/-- The sum after an insertion, with the group that had the key, is the sum before it with the new one. -/
theorem Ordered.total_insert {t : ApiTable} (h : t.Ordered) (f : Slots → Nat) (hf : f {} = 0) (g : ApiGroup) :
    total f (ApiTable.insert g t) + f (t.find g.key).slots = total f t + f g.slots := by
  induction t with
  | nil =>
      have hfind : find [] g.key = { key := g.key } := rfl
      simp only [ApiTable.insert, total, hfind, hf]
      omega
  | cons k t ih =>
      obtain ⟨hhead, htail⟩ := List.pairwise_cons.mp h
      rcases insert_cases g k t with ⟨hlt, heq⟩ | ⟨hlt, heq⟩ | ⟨hkey, heq⟩
      · have hfind : find (k :: t) g.key = { key := g.key } := by
          refine find_of_forall_ne fun x hx hkey => ?_
          rcases List.mem_cons.mp hx with rfl | hx
          · rw [hkey] at hlt
            omega
          · have hlt' := hhead x hx
            rw [hkey] at hlt'
            omega
        simp only [heq, hfind, hf, total]
        omega
      · have hne : k.key ≠ g.key := fun hkey => by
          rw [hkey] at hlt
          omega
        have hrest := ih htail
        simp only [heq, find_cons, if_neg hne, total]
        omega
      · simp only [heq, find_cons, if_pos hkey.symm, total]
        omega

theorem total_add (f f' : Slots → Nat) (t : ApiTable) :
    total (fun s => f s + f' s) t = total f t + total f' t := by
  induction t with
  | nil => rfl
  | cons g t ih =>
      simp only [total, ih]
      omega

end ApiTable

/-! ## Sums over the groups -/

namespace Generator

/-- The sum of a number over all groups. -/
def total (g : Generator) (f : Slots → Nat) : Nat :=
  g.apis.total f + f g.headers.slots

/-- The number of messages in slots. -/
def stored (g : Generator) : Nat :=
  g.total Slots.count

/-- The number of groups with both slots filled. -/
def completed (g : Generator) : Nat :=
  g.total Slots.full

theorem total_charge (g : Generator) (n : Nat) (f : Slots → Nat) : (g.charge n).total f = g.total f :=
  rfl

theorem compiled_keep (g : Generator) (group : Group) : (g.keep group).compiled = g.compiled := by
  cases group <;> rfl

theorem total_keep {g : Generator} (h : g.apis.Ordered) (f : Slots → Nat) (hf : f {} = 0) (group : Group) :
    (g.keep group).total f + f (g.group group.route).slots = g.total f + f group.slots := by
  cases group with
  | api a =>
      have hsum := h.total_insert f hf a
      simp only [keep, total, Generator.group, Group.route, Group.slots]
      omega
  | headers a =>
      simp only [keep, total, Generator.group, Group.route, Group.slots]
      omega

theorem ordered_keep {g : Generator} (h : g.apis.Ordered) (group : Group) : (g.keep group).apis.Ordered := by
  cases group with
  | api a => exact h.insert a
  | headers a => exact h

theorem total_add (g : Generator) (f f' : Slots → Nat) :
    g.total (fun s => f s + f' s) = g.total f + g.total f' := by
  rw [total, total, total, ApiTable.total_add]
  omega

variable {g : Generator} {doc : Document} {m : Message} {r : Route} {slot : Slot}

theorem Accepts.stored_keep (h : g.Accepts doc m r slot) (hordered : g.apis.Ordered) :
    (g.keep (g.filled m r slot)).stored = g.stored + 1 := by
  have htotal := total_keep hordered Slots.count rfl (g.filled m r slot)
  rw [route_filled, filled, Group.slots_withSlots, Slots.count_set _ h.empty] at htotal
  rw [stored, stored, filled]
  omega

theorem Accepts.completed_keep (h : g.Accepts doc m r slot) (hordered : g.apis.Ordered) :
    (g.keep (g.filled m r slot)).completed = g.completed + (g.filled m r slot).slots.full := by
  have htotal := total_keep hordered Slots.full rfl (g.filled m r slot)
  rw [route_filled, Slots.full_of_get_eq_none _ h.empty] at htotal
  rw [completed, completed]
  omega

/-! ## Groups that wait -/

theorem length_incomplete (g : Generator) : g.incomplete.length = g.total Slots.waiting := by
  have hapis : ∀ t : ApiTable, (t.filterMap fun a => a.missing.map (missingText (apiLabel a.key))).length =
      t.total Slots.waiting := fun t => by
    induction t with
    | nil => rfl
    | cons a t ih =>
        rw [List.filterMap_cons, ApiTable.total, ← ih, ApiGroup.missing, Slots.waiting]
        cases a.slots.missing with
        | none => exact (Nat.zero_add _).symm
        | some slot => exact Nat.add_comm _ 1
  have hheaders : (g.headers.missing.map (missingText headersLabel)).toList.length =
      g.headers.slots.waiting := by
    rw [HeaderGroup.missing, Slots.waiting]
    cases g.headers.slots.missing <;> rfl
  rw [incomplete, List.length_append, hapis, hheaders, total]

/-- Every message is in a group that waits or in one that is complete. -/
theorem stored_eq (g : Generator) : g.stored = g.incomplete.length + 2 * g.completed := by
  have hslots : ∀ s : Slots, s.count = s.waiting + (s.full + s.full) := fun s => by
    rw [s.count_eq, Nat.two_mul]
  calc g.total Slots.count
      = g.total (fun s => s.waiting + (s.full + s.full)) := congrArg g.total (funext hslots)
    _ = g.total Slots.waiting + (g.total Slots.full + g.total Slots.full) := by rw [total_add, total_add]
    _ = g.incomplete.length + 2 * g.completed := by rw [length_incomplete, completed, Nat.two_mul]

/-- The keys of the APIs that wait, each with the slot that is empty. -/
def waitingApis (g : Generator) : List (Int16 × Slot) :=
  g.apis.filterMap fun a => a.missing.map (a.key, ·)

theorem incomplete_eq (g : Generator) :
    g.incomplete = (g.waitingApis.map fun p => missingText (apiLabel p.1) p.2) ++
      (g.headers.missing.map (missingText headersLabel)).toList := by
  rw [incomplete, waitingApis, List.map_filterMap]
  simp only [Option.map_map]
  rfl

theorem mem_waitingApis (h : g.apis.Ordered) {key : Int16} {slot : Slot} :
    (key, slot) ∈ g.waitingApis ↔ (g.group (.api key)).missing = some slot := by
  rw [waitingApis, List.mem_filterMap]
  constructor
  · rintro ⟨a, ha, hmissing⟩
    obtain ⟨slot', hslot, heq⟩ := Option.map_eq_some_iff.mp hmissing
    cases heq
    rw [group, h.find_of_mem ha]
    exact hslot
  · intro hmissing
    rcases g.apis.find_cases key with hmem | hfresh
    · refine ⟨g.apis.find key, hmem, ?_⟩
      rw [ApiTable.key_find]
      exact Option.map_eq_some_iff.mpr ⟨slot, hmissing, rfl⟩
    · rw [group, hfresh] at hmissing
      cases hmissing

theorem pairwise_waitingApis (h : g.apis.Ordered) :
    g.waitingApis.Pairwise fun p q => p.1.toInt < q.1.toInt := by
  refine List.Pairwise.filterMap _ (fun a b hlt p hp q hq => ?_) h
  obtain ⟨_, _, rfl⟩ := Option.map_eq_some_iff.mp hp
  obtain ⟨_, _, rfl⟩ := Option.map_eq_some_iff.mp hq
  exact hlt

end Generator

/-! ## One document -/

/-- The names of the two messages of a group do not fit. -/
def Error.isNameMismatch : Error → Bool
  | .nameMismatch .. => true
  | _ => false

/-- A group could not be compiled or its file not written. -/
def Error.isCompile : Error → Bool
  | .compile .. => true
  | _ => false

namespace Report

/-- The number of failures with an error of some kind. -/
def count (r : Report) (p : Error → Bool) : Nat :=
  r.failures.countP fun f => p f.error

variable (r : Report) (path : String) (p : Error → Bool)

theorem count_note_error (e : Error) :
    (Workspace.note r path (.error e)).count p = r.count p + (p e).toNat := by
  rw [count, count, Workspace.note, List.countP_append, List.countP_singleton]
  cases p e <;> rfl

theorem count_note_ok (written : Option String) : (Workspace.note r path (.ok written)).count p = r.count p := by
  cases written <;> rfl

theorem written_note_error (e : Error) : (Workspace.note r path (.error e)).written = r.written :=
  rfl

theorem length_written_note (written : String) :
    (Workspace.note r path (.ok (some written))).written.length = r.written.length + 1 :=
  List.length_append

end Report

/-- Everything that can come of a document. -/
inductive Outcome (w : Workspace) (doc : Document) : Workspace × Except Error (Option String) → Prop where
  | refused {e : Error} (refuses : e.refuses) : Outcome w doc (w, .error e)
  | waits {m : Message} {r : Route} {slot : Slot} (accepts : w.generator.Accepts doc m r slot)
      (full : (w.generator.filled m r slot).slots.full = 0) :
      Outcome w doc (⟨w.disk, w.generator.keep (w.generator.filled m r slot)⟩, .ok none)
  | mismatched {m : Message} {r : Route} {slot : Slot} (accepts : w.generator.Accepts doc m r slot)
      (full : (w.generator.filled m r slot).slots.full = 1) (key : Int16) (request response : String) :
      Outcome w doc (⟨w.disk, w.generator.keep (w.generator.filled m r slot)⟩,
        .error (.nameMismatch key request response))
  | broken {m : Message} {r : Route} {slot : Slot} (accepts : w.generator.Accepts doc m r slot)
      (full : (w.generator.filled m r slot).slots.full = 1) (e : Source.Error) :
      Outcome w doc (⟨w.disk, (w.generator.keep (w.generator.filled m r slot)).charge 1⟩,
        .error (.compile r.label e))
  | written {m : Message} {r : Route} {slot : Slot} (accepts : w.generator.Accepts doc m r slot)
      (full : (w.generator.filled m r slot).slots.full = 1) (disk : Disk) (path : String) :
      Outcome w doc (⟨disk, (w.generator.keep (w.generator.filled m r slot)).charge 1⟩, .ok (some path))

theorem outcome_receive [Source.Parser] (w : Workspace) (doc : Document) : Outcome w doc (w.receive doc) := by
  rw [Workspace.receive_eq]
  rcases w.generator.receive_cases doc with ⟨e, he, hrefused⟩ | ⟨m, r, slot, haccepts⟩
  · rw [hrefused]
    exact .refused he
  · rw [haccepts.receive_eq]
    cases hpair : (w.generator.filled m r slot).slots.pair? with
    | none => exact .waits haccepts (by rw [Slots.full, hpair]; rfl)
    | some pair =>
        have hfull : (w.generator.filled m r slot).slots.full = 1 := by rw [Slots.full, hpair]; rfl
        rcases w.generator.reply_cases r pair with
          ⟨key, request, response, hreply, hcharge⟩ | ⟨⟨e, hreply⟩ | ⟨path, sheet, _, hreply⟩, hcharge⟩ <;>
          rw [hreply, hcharge]
        · exact .mismatched haccepts hfull key request response
        · exact .broken haccepts hfull e
        · -- the group has been compiled, and its file may still not be written
          cases hplace : (Artifact.mk r.label path sheet).place? w.disk with
          | some p =>
              rw [deliverTo_of_place hplace]
              exact .written haccepts hfull _ path
          | none =>
              obtain ⟨e, hdeliver⟩ := deliverTo_of_no_place hplace
              rw [hdeliver]
              exact .broken haccepts hfull e

/-! ## The ledger -/

/-- The accounts after `n` documents. -/
structure Ledger (n : Nat) (g : Generator) (r : Report) : Prop where
  ordered : g.apis.Ordered
  documents : n = g.stored + r.count Error.refuses
  groups : g.completed = r.written.length + r.count Error.isNameMismatch + r.count Error.isCompile
  compilations : g.compiled = r.written.length + r.count Error.isCompile

namespace Ledger

variable {n : Nat} {w : Workspace} {r : Report}

theorem create (destination : String) (options : Options) : Ledger 0 (Generator.create destination options) {} :=
  ⟨.nil, rfl, rfl, rfl⟩

/-- A document that is turned away is counted by its error alone. -/
theorem refuse {g : Generator} (h : Ledger n g r) {e : Error} (he : e.refuses) (path : String) :
    Ledger (n + 1) g (Workspace.note r path (.error e)) := by
  have hmismatch : e.isNameMismatch = false := by cases e <;> first | rfl | cases he
  have hcompile : e.isCompile = false := by cases e <;> first | rfl | cases he
  obtain ⟨hordered, hdocuments, hgroups, hcompilations⟩ := h
  constructor
  case ordered => exact hordered
  case documents => rw [Report.count_note_error, he, hdocuments, Nat.add_assoc, Bool.toNat_true]
  case groups =>
    rw [Report.count_note_error, Report.count_note_error, hmismatch, hcompile, Report.written_note_error, hgroups]
    rfl
  case compilations =>
    rw [Report.count_note_error, hcompile, Report.written_note_error, hcompilations]
    rfl

/-- A document that is kept adds a message, and a group if it completes its own. -/
theorem keep {g : Generator} (h : Ledger n g r) {doc : Document} {m : Message} {route : Route} {slot : Slot}
    (haccepts : g.Accepts doc m route slot) {r' : Report} (k : Nat)
    (hrefusals : r'.count Error.refuses = r.count Error.refuses)
    (hgroups : r'.written.length + r'.count Error.isNameMismatch + r'.count Error.isCompile =
      r.written.length + r.count Error.isNameMismatch + r.count Error.isCompile +
        (g.filled m route slot).slots.full)
    (hcompilations : r'.written.length + r'.count Error.isCompile =
      r.written.length + r.count Error.isCompile + k) :
    Ledger (n + 1) ((g.keep (g.filled m route slot)).charge k) r' := by
  have hstored := haccepts.stored_keep h.ordered
  have hcompleted := haccepts.completed_keep h.ordered
  have hcompiled : ((g.keep (g.filled m route slot)).charge k).compiled = g.compiled + k :=
    congrArg (· + k) (Generator.compiled_keep g _)
  constructor
  case ordered => exact Generator.ordered_keep h.ordered _
  case documents =>
    have hn := h.documents
    rw [Generator.stored, Generator.total_charge, ← Generator.stored, hstored, hrefusals]
    omega
  case groups =>
    have hg := h.groups
    rw [Generator.completed, Generator.total_charge, ← Generator.completed, hcompleted]
    omega
  case compilations =>
    have hc := h.compilations
    omega

theorem receive [Source.Parser] (h : Ledger n w.generator r) (doc : Document) (path : String) :
    Ledger (n + 1) (w.receive doc).1.generator (Workspace.note r path (w.receive doc).2) := by
  have houtcome := outcome_receive w doc
  generalize w.receive doc = result at houtcome
  cases houtcome with
  | refused refuses => exact h.refuse refuses path
  | waits accepts full => exact h.keep accepts 0 rfl (by rw [full]; rfl) rfl
  | mismatched accepts full key request response =>
      refine h.keep accepts 0 ?_ ?_ ?_
      · exact Report.count_note_error r path _ _
      · simp only [Report.count_note_error, Report.written_note_error, full, Error.isNameMismatch, Error.isCompile,
          Bool.toNat_true, Bool.toNat_false]
        omega
      · simp only [Report.count_note_error, Report.written_note_error, Error.isCompile, Bool.toNat_false]
        omega
  | broken accepts full e =>
      refine h.keep accepts 1 ?_ ?_ ?_
      · exact Report.count_note_error r path _ _
      · simp only [Report.count_note_error, Report.written_note_error, full, Error.isNameMismatch, Error.isCompile,
          Bool.toNat_true, Bool.toNat_false]
        omega
      · simp only [Report.count_note_error, Report.written_note_error, Error.isCompile, Bool.toNat_true]
        omega
  | written accepts full disk path =>
      refine h.keep accepts 1 ?_ ?_ ?_
      · exact Report.count_note_ok r _ _ _
      · simp only [Report.count_note_ok, Report.length_written_note, full]
        omega
      · simp only [Report.count_note_ok, Report.length_written_note]
        omega

/-- The documents of a run, one after another. -/
theorem runFrom [Source.Parser] (w : Workspace) (h : Ledger n w.generator r) (paths : List String) :
    Ledger (n + paths.length) (w.runFrom r paths).1.generator (w.runFrom r paths).2 := by
  induction paths generalizing n w r with
  | nil => exact ⟨h.ordered, h.documents, h.groups, h.compilations⟩
  | cons path paths ih =>
      have hstep := h.receive ⟨path, loadFrom w.disk path⟩ path
      rw [← Workspace.process_eq] at hstep
      rw [List.length_cons, Nat.add_comm paths.length, ← Nat.add_assoc]
      exact ih _ hstep

end Ledger

theorem incomplete_runFrom [Source.Parser] (w : Workspace) (r : Report) (paths : List String) :
    (w.runFrom r paths).2.incomplete = (w.runFrom r paths).1.generator.incomplete := by
  induction paths generalizing w r with
  | nil => rfl
  | cons path paths ih => exact ih _ _

/-- In whatever order the sources are processed, the accounts agree in the end. Each message that is kept is in a
group that waits or in a complete one, and each source is kept or turned away. Each complete group is written or
reported, and it is counted as compiled unless its names do not fit. The groups that wait are listed by increasing
keys, each once, and the headers last. -/
theorem run_accounts [Source.Parser] (disk : Disk) (destination : String) (options : Options)
    {sources order : List String} (hperm : order.Perm sources) {w : Workspace} {r : Report}
    (hrun : Workspace.run ⟨disk, .create destination options⟩ order = (w, r)) :
    w.generator.stored = r.incomplete.length + 2 * w.generator.completed ∧
    sources.length = w.generator.stored + r.count Error.refuses ∧
    w.generator.completed = r.written.length + r.count Error.isNameMismatch + r.count Error.isCompile ∧
    w.generator.compiled = r.written.length + r.count Error.isCompile ∧
    ∃ waiting : List (Int16 × Slot),
      waiting.Pairwise (fun p q => p.1.toInt < q.1.toInt) ∧
      (∀ key slot, (key, slot) ∈ waiting ↔ (w.generator.group (.api key)).missing = some slot) ∧
      r.incomplete = (waiting.map fun p => Generator.missingText (apiLabel p.1) p.2) ++
        (w.generator.headers.missing.map (Generator.missingText headersLabel)).toList := by
  have hledger := (Ledger.create destination options).runFrom ⟨disk, .create destination options⟩ order
  have hincomplete := incomplete_runFrom ⟨disk, .create destination options⟩ {} order
  rw [← Workspace.run, hrun] at hledger hincomplete
  refine ⟨?_, ?_, hledger.groups, hledger.compilations, w.generator.waitingApis, ?_, ?_, ?_⟩
  · rw [hincomplete]
    exact w.generator.stored_eq
  · rw [← hperm.length_eq, ← hledger.documents, Nat.zero_add]
  · exact Generator.pairwise_waitingApis hledger.ordered
  · exact fun key slot => Generator.mem_waitingApis hledger.ordered
  · rw [hincomplete]
    exact w.generator.incomplete_eq

/-- A header at `i`, a request at `a`, and at `p` and `q` an API whose names do not fit. -/
def sourceDisk : Disk where
  files := [(["i"], Text.Utf8.encode "\x7b\"type\":\"header\",\"name\":\"RequestHeader\"\x7d"),
    (["a"], Text.Utf8.encode "\x7b\"type\":\"request\",\"apiKey\":1,\"name\":\"ARequest\"\x7d"),
    (["p"], Text.Utf8.encode "\x7b\"type\":\"request\",\"apiKey\":2,\"name\":\"PRequest\"\x7d"),
    (["q"], Text.Utf8.encode "\x7b\"type\":\"response\",\"apiKey\":2,\"name\":\"QResponse\"\x7d")]

theorem run_accounts_sourceDisk : ∃ w r,
    Workspace.run ⟨sourceDisk, .create "out" {}⟩ ["q", "x", "a", "p", "i"] = (w, r) ∧
    r.incomplete = ["api key 1 (missing response)", "headers (missing response)"] ∧
    r.count Error.isNameMismatch = 1 ∧
    w.generator.stored = 2 + 2 * w.generator.completed ∧
    5 = w.generator.stored + r.count Error.refuses ∧
    w.generator.completed = r.written.length + 1 + r.count Error.isCompile ∧
    w.generator.compiled = r.written.length + r.count Error.isCompile := by
  have hincomplete : (Workspace.run ⟨sourceDisk, .create "out" {}⟩ ["q", "x", "a", "p", "i"]).2.incomplete =
      ["api key 1 (missing response)", "headers (missing response)"] := by
    decide +kernel
  have hmismatch : (Workspace.run ⟨sourceDisk, .create "out" {}⟩ ["q", "x", "a", "p", "i"]).2.count
      Error.isNameMismatch = 1 := by
    decide +kernel
  rcases hrun : Workspace.run ⟨sourceDisk, .create "out" {}⟩ ["q", "x", "a", "p", "i"] with ⟨w, r⟩
  rw [hrun] at hincomplete hmismatch
  have hperm : ["q", "x", "a", "p", "i"].Perm ["i", "a", "p", "q", "x"] := by decide
  obtain ⟨hstored, hsources, hgroups, hcompiled, _⟩ := run_accounts sourceDisk "out" {} hperm hrun
  rw [hincomplete] at hstored
  rw [hmismatch] at hgroups
  exact ⟨w, r, rfl, hincomplete, hmismatch, hstored, hsources, hgroups, hcompiled⟩

end WireSchema.Generation
