import WireSchema.Proofs.Address
import WireSchema.Proofs.Source.Gating
import WireSchema.Proofs.Source.Remark

/-!
Why a group is refused. A structure is at fault if a field refers to a structure that the message does not declare
or has a default that is not a value of its type. Everything else that is written for a structure is written
without fail, so the error of a group is that of the first structure at fault, where the structures are met in the
order of their addresses.
-/

namespace WireSchema.Source

open WireSchema.Schema
open Address (Lists)

/-! ## The structures of a group by address -/

/-- The structure that a field declares inline, if it does. -/
def inlineRecord? (f : Field) : Option Record :=
  match f.type.element with
  | .primitive _ => none
  | .struct name => if f.fields.isEmpty then none else some (inlineRecord f name)

/-- The structure reached from one by going, level by level, into the inline structure of a field. -/
def recordAt? : Record → Address → Option Record
  | r, [] => some r
  | r, i :: p => r.fields[i]?.bind fun f => (inlineRecord? f).bind fun inner => recordAt? inner p

/-- The structures of a message: its own is the first branch, and those declared beside its fields are the
others. -/
def messageAt? (m : Message) : Address → Option Record
  | [] => none
  | 0 :: p => recordAt? m.record p
  | (i + 1) :: p => m.structures[i]?.bind fun c => recordAt? (structureRecord c) p

/-- The structures of a group, each with its message. -/
def groupAt? (ms : List Message) : Address → Option (Message × Record)
  | [] => none
  | i :: p => ms[i]?.bind fun m => (messageAt? m p).map (m, ·)

theorem inlineRecordsOf_eq_inlineRecord? (f : Field) :
    inlineRecordsOf f =
      match inlineRecord? f with
      | none => []
      | some r => r :: inlineRecords r.fields := by
  rw [inlineRecordsOf_eq, inlineRecord?]
  cases f.type.element with
  | primitive p => rfl
  | struct name => cases f.fields.isEmpty <;> rfl

theorem fields_of_inlineRecord? {f : Field} {r : Record} (h : inlineRecord? f = some r) : r.fields = f.fields := by
  rw [inlineRecord?] at h
  split at h
  · cases h
  · split at h
    · cases h
    · cases h
      rfl

/-- A structure comes before those declared inline in it, which come field by field. -/
theorem lists_record_of_fields {r : Record}
    (h : ∀ f ∈ r.fields, Lists (fun p => (inlineRecord? f).bind (recordAt? · p)) (inlineRecordsOf f)) :
    Lists (recordAt? r) (r :: inlineRecords r.fields) := by
  have hbelow : Lists (fun | [] => none | i :: p => recordAt? r (i :: p)) (inlineRecords r.fields) := by
    rw [inlineRecords_eq_flatMap]
    exact .flatMap h rfl fun _ _ => rfl
  exact hbelow.cons rfl rfl fun _ _ => rfl

theorem lists_inlineRecordsOf (f : Field) :
    Lists (fun p => (inlineRecord? f).bind (recordAt? · p)) (inlineRecordsOf f) := by
  induction f using Field.tree_induction with
  | h f ih =>
      rw [inlineRecordsOf_eq_inlineRecord?]
      cases hinline : inlineRecord? f with
      | none => exact .nil fun _ => rfl
      | some r => exact lists_record_of_fields fun g hg => ih g (fields_of_inlineRecord? hinline ▸ hg)

theorem lists_record (r : Record) : Lists (recordAt? r) (r :: inlineRecords r.fields) :=
  lists_record_of_fields fun f _ => lists_inlineRecordsOf f

theorem lists_message (m : Message) : Lists (messageAt? m) m.records := by
  have hstructures : Lists (fun | [] => none | i :: p => messageAt? m ((i + 1) :: p))
      (m.structures.flatMap fun c => structureRecord c :: inlineRecords c.fields) :=
    .flatMap (fun c _ => lists_record (structureRecord c)) rfl fun _ _ => rfl
  exact (lists_record m.record).append hstructures rfl rfl (fun _ => rfl) fun _ _ => rfl

theorem lists_group (ms : List Message) :
    Lists (groupAt? ms) (ms.flatMap fun m => m.records.map (m, ·)) :=
  .flatMap (fun m _ => (lists_message m).map (m, ·)) rfl fun _ _ => rfl

/-! ## Faults of a structure -/

/-- The field refers to a structure of a name that is not known. -/
def Dangles (known : List String) (f : Field) (name : String) : Prop :=
  f.type.element = .struct name ∧ name ∉ known

/-- The default of the field is not a value of its type. Only a single boolean, integer or string has a default
that is looked at. -/
inductive Misfit (f : Field) (cause : Schema.Error) : Prop where
  | boolean (htype : f.type = ⟨.primitive .bool, false⟩) (h : f.default.toBool = .error cause)
  | integer {p : Primitive} {bits : Nat} (htype : f.type = ⟨.primitive p, false⟩) (hbits : p.bits? = some bits)
      (h : f.default.toInt bits = .error cause)
  | text (htype : f.type = ⟨.primitive .string, false⟩) (h : f.default.toText = .error cause)

/-- The error that stands for a structure: the first of its references that dangles or, if none does, the first of
its defaults that is a misfit. -/
inductive RecordFault (known : List String) (r : Record) : Error → Prop where
  | reference {front back : List Field} {f : Field} {name : String} (hfields : r.fields = front ++ f :: back)
      (h : Dangles known f name) (hfront : ∀ g ∈ front, ∀ other, ¬ Dangles known g other) :
      RecordFault known r (.unknownStructure r.name f.name name)
  | default {front back : List Field} {f : Field} {cause : Schema.Error} (hfields : r.fields = front ++ f :: back)
      (h : Misfit f cause) (hfront : ∀ g ∈ front, ∀ other, ¬ Misfit g other)
      (hreferences : ∀ g ∈ r.fields, ∀ other, ¬ Dangles known g other) :
      RecordFault known r (.default r.name f.name cause)

/-- The field that an error is about. -/
theorem RecordFault.exists_field {known : List String} {r : Record} {e : Error} (h : RecordFault known r e) :
    ∃ f ∈ r.fields,
      (∃ name, Dangles known f name ∧ e = .unknownStructure r.name f.name name) ∨
        ∃ cause, Misfit f cause ∧ e = .default r.name f.name cause := by
  cases h with
  | reference hfields h hfront => exact ⟨_, by simp [hfields], Or.inl ⟨_, h, rfl⟩⟩
  | default hfields h hfront hreferences => exact ⟨_, by simp [hfields], Or.inr ⟨_, h, rfl⟩⟩

theorem Misfit.single_primitive {f : Field} {cause : Schema.Error} (h : Misfit f cause) :
    f.type.isArray = false ∧ ∃ primitive, f.type.element = .primitive primitive ∧ primitive ≠ .bytes := by
  cases h with
  | boolean htype _ => exact ⟨by rw [htype], .bool, by rw [htype], by decide⟩
  | text htype _ => exact ⟨by rw [htype], .string, by rw [htype], by decide⟩
  | @integer p _ htype hbits _ =>
      refine ⟨by rw [htype], p, by rw [htype], ?_⟩
      rintro rfl
      cases hbits

/-- No reference dangles and every default fits. -/
def Sound (known : List String) (r : Record) : Prop :=
  ∀ f ∈ r.fields, (∀ name, ¬ Dangles known f name) ∧ ∀ cause, ¬ Misfit f cause

theorem not_sound_iff {known : List String} {r : Record} :
    ¬ Sound known r ↔ ∃ f ∈ r.fields, (∃ name, Dangles known f name) ∨ ∃ cause, Misfit f cause := by
  simp only [Sound, not_forall, not_and_or, not_not, exists_prop]

def danglingError? (known : List String) (r : Record) (f : Field) : Option Error :=
  match f.type.element with
  | .primitive _ => none
  | .struct name => if known.contains name then none else some (.unknownStructure r.name f.name name)

def misfitError? (r : Record) (f : Field) : Option Error :=
  match defaultText f.type f.default with
  | .ok _ => none
  | .error cause => some (.default r.name f.name cause)

theorem danglingError?_eq_some {known : List String} {r : Record} {f : Field} {e : Error} :
    danglingError? known r f = some e ↔ ∃ name, Dangles known f name ∧ e = .unknownStructure r.name f.name name := by
  rw [danglingError?]
  simp only [Dangles]
  cases f.type.element with
  | primitive p => simp
  | struct own =>
      by_cases hown : own ∈ known
      · simp [hown]
      · simp [hown, eq_comm]

theorem map_eq_error {ε α β : Type} {x : Except ε α} {f : α → β} {e : ε} :
    x.map f = .error e ↔ x = .error e := by
  cases x <;> simp [Except.map]

theorem defaultText_eq_error {f : Field} {cause : Schema.Error} :
    defaultText f.type f.default = .error cause ↔ Misfit f cause := by
  constructor
  · intro h
    rcases htype : f.type with ⟨element, isArray⟩
    rw [htype] at h
    cases isArray with
    | true => cases h
    | false =>
        cases element with
        | struct name => cases h
        | primitive p =>
            cases p with
            | bool => exact .boolean htype (map_eq_error.mp h)
            | string => exact .text htype (map_eq_error.mp h)
            | bytes => cases h
            | _ => exact .integer htype rfl (map_eq_error.mp h)
  · rintro (⟨htype, h⟩ | ⟨htype, hbits, h⟩ | ⟨htype, h⟩)
    · rw [htype]
      exact map_eq_error.mpr h
    · rw [htype]
      rename_i p _
      cases p <;> cases hbits <;> exact map_eq_error.mpr h
    · rw [htype]
      exact map_eq_error.mpr h

theorem misfitError?_eq_some {r : Record} {f : Field} {e : Error} :
    misfitError? r f = some e ↔ ∃ cause, Misfit f cause ∧ e = .default r.name f.name cause := by
  rw [misfitError?]
  simp only [← defaultText_eq_error]
  cases defaultText f.type f.default with
  | ok text => simp
  | error cause => simp [eq_comm]

/-- The error of a structure. -/
def recordError? (known : List String) (r : Record) : Option Error :=
  (r.fields.findSome? (danglingError? known r)).or (r.fields.findSome? (misfitError? r))

theorem eq_none_iff_of_eq_some {α β : Type} {o : Option α} {P : β → Prop} {g : β → α}
    (h : ∀ {a}, o = some a ↔ ∃ b, P b ∧ a = g b) : o = none ↔ ∀ b, ¬ P b := by
  constructor
  · intro hnone b hb
    have hsome := h.mpr ⟨b, hb, rfl⟩
    rw [hnone] at hsome
    cases hsome
  · intro hnever
    cases ho : o with
    | none => rfl
    | some a =>
        obtain ⟨b, hb, -⟩ := h.mp ho
        exact absurd hb (hnever b)

theorem danglingError?_eq_none {known : List String} {r : Record} {f : Field} :
    danglingError? known r f = none ↔ ∀ name, ¬ Dangles known f name :=
  eq_none_iff_of_eq_some danglingError?_eq_some

theorem misfitError?_eq_none {r : Record} {f : Field} : misfitError? r f = none ↔ ∀ cause, ¬ Misfit f cause :=
  eq_none_iff_of_eq_some misfitError?_eq_some

theorem recordError?_eq_some {known : List String} {r : Record} {e : Error} :
    recordError? known r = some e ↔ RecordFault known r e := by
  rw [recordError?, Option.or_eq_some_iff, List.findSome?_eq_some_iff, List.findSome?_eq_some_iff,
    List.findSome?_eq_none_iff]
  simp only [danglingError?_eq_some, danglingError?_eq_none, misfitError?_eq_some, misfitError?_eq_none]
  constructor
  · rintro (⟨front, f, back, hfields, ⟨name, h, rfl⟩, hfront⟩ |
      ⟨hreferences, front, f, back, hfields, ⟨cause, h, rfl⟩, hfront⟩)
    · exact .reference hfields h hfront
    · exact .default hfields h hfront hreferences
  · rintro (⟨hfields, h, hfront⟩ | ⟨hfields, h, hfront, hreferences⟩)
    · exact Or.inl ⟨_, _, _, hfields, ⟨_, h, rfl⟩, hfront⟩
    · exact Or.inr ⟨hreferences, _, _, _, hfields, ⟨_, h, rfl⟩, hfront⟩

theorem recordError?_eq_none {known : List String} {r : Record} :
    recordError? known r = none ↔ Sound known r := by
  rw [recordError?, Option.or_eq_none_iff, List.findSome?_eq_none_iff, List.findSome?_eq_none_iff]
  simp only [danglingError?_eq_none, misfitError?_eq_none, Sound]
  exact ⟨fun h f hf => ⟨h.1 f hf, h.2 f hf⟩, fun h => ⟨fun f hf => (h f hf).1, fun f hf => (h f hf).2⟩⟩

/-! ## What is written without fail -/

namespace Pieces

@[simp] theorem error?_nil : error? [] = none :=
  rfl

@[simp] theorem error?_line (text : String) (ps : Pieces) : error? (line text :: ps) = error? ps :=
  rfl

@[simp] theorem error?_braceLine (text : String) (ps : Pieces) : error? (braceLine text :: ps) = error? ps :=
  rfl

@[simp] theorem error?_closeLine (ps : Pieces) : error? (closeLine :: ps) = error? ps :=
  rfl

@[simp] theorem error?_blankLine (ps : Pieces) : error? (blankLine :: ps) = error? ps :=
  rfl

theorem error?_flatMap {α : Type} (f : α → Pieces) (items : List α) :
    error? (items.flatMap f) = items.findSome? fun a => error? (f a) := by
  induction items with
  | nil => rfl
  | cons a items ih =>
      rw [List.flatMap_cons, error?_append, ih, List.findSome?_cons]
      cases error? (f a) <;> rfl

theorem error?_flatMap_eq_none {α : Type} {f : α → Pieces} {items : List α} (h : ∀ a ∈ items, error? (f a) = none) :
    error? (items.flatMap f) = none := by
  rw [error?_flatMap, List.findSome?_eq_none_iff]
  exact h

theorem error?_map_eq_none {α : Type} {f : α → Piece} (h : ∀ a, ∃ text, f a = line text) (items : List α) :
    error? (items.map f) = none := by
  rw [List.map_eq_flatMap]
  refine error?_flatMap_eq_none fun a _ => ?_
  obtain ⟨text, htext⟩ := h a
  rw [htext, error?_line, error?_nil]

end Pieces

open Pieces

theorem error?_memberPieces (f : Field) : error? (memberPieces f) = none := by
  have habout : error? (aboutPieces f.about) = none := by
    refine error?_map_eq_none (fun l => ?_) _
    split <;> exact ⟨_, rfl⟩
  rw [memberPieces, error?_append, habout]
  rfl

theorem error?_separated {parts : List Pieces} (h : ∀ ps ∈ parts, error? ps = none) :
    error? (separated parts) = none := by
  fun_induction separated parts with
  | case1 => rfl
  | case2 ps => exact h ps List.mem_cons_self
  | case3 ps rest _ ih =>
      rw [error?_append, h ps List.mem_cons_self]
      exact ih fun qs hqs => h qs (List.mem_cons_of_mem ps hqs)

theorem error?_typePieces (r : Record) : error? (typePieces r) = none := by
  have hmembers : error? (separated (r.fields.map memberPieces)) = none := by
    refine error?_separated fun ps hps => ?_
    obtain ⟨f, _, rfl⟩ := List.mem_map.mp hps
    exact error?_memberPieces f
  simp [typePieces, error?_append, hmembers]

theorem error?_guardPieces (c : Version.Condition) : error? (guardPieces c) = none := by
  cases c <;> rfl

theorem error?_helperPieces (r : Record) (f : Field) : error? (helperPieces r f) = none := by
  have hdecode : error? (decodeBody f) = none := by
    rw [decodeBody]
    cases f.type.isArray <;> cases f.type.element <;> rfl
  have hencode : error? (encodeBody f) = none := by
    rw [encodeBody]
    cases f.type.isArray <;> rfl
  simp [helperPieces, decodeHelper, encodeHelper, error?_append, error?_guardPieces, hdecode, hencode]

theorem error?_inherentPieces (r : Record) {extra : Pieces} (hextra : error? extra = none) :
    error? (inherentPieces r extra) = none := by
  have hhelpers : error? (r.fields.flatMap (helperPieces r)) = none :=
    error?_flatMap_eq_none fun f _ => error?_helperPieces r f
  simp [inherentPieces, error?_append, hextra, hhelpers]

theorem error?_codecPieces (r : Record) : error? (codecPieces r) = none := by
  have hcalls (call : Field → String) : error? (r.fields.map fun f => line (call f)) = none :=
    error?_map_eq_none (fun f => ⟨call f, rfl⟩) r.fields
  simp [codecPieces, error?_append, hcalls]

theorem error?_messageOnlyPieces (m : Message) : error? (messageOnlyPieces m) = none := by
  rw [messageOnlyPieces]
  cases m.isApi <;> cases m.apiKey <;> rfl

theorem error?_commentPieces (comments : String) : error? (commentPieces comments) = none :=
  error?_map_eq_none (fun _ => ⟨_, rfl⟩) _

/-! ## The error of a group -/

theorem error?_referencePieces (known : List String) (r : Record) :
    error? (referencePieces known r) = r.fields.findSome? (danglingError? known r) := by
  rw [referencePieces]
  induction r.fields with
  | nil => rfl
  | cons f fields ih =>
      rw [List.filterMap_cons, List.findSome?_cons, danglingError?]
      cases f.type.element with
      | primitive p => exact ih
      | struct name =>
          by_cases hname : known.contains name
          · simp only [hname, if_true]
            exact ih
          · simp only [hname]
            rfl

theorem error?_defaultImplPieces (r : Record) :
    error? (defaultImplPieces r) = r.fields.findSome? (misfitError? r) := by
  have hfield (f : Field) : error? (defaultPieces r.name f) = misfitError? r f := by
    rw [defaultPieces, misfitError?]
    cases defaultText f.type f.default <;> rfl
  have hfields : error? (r.fields.flatMap (defaultPieces r.name)) = r.fields.findSome? (misfitError? r) := by
    rw [error?_flatMap]
    simp only [hfield]
  simp [defaultImplPieces, error?_append, hfields]

theorem error?_recordPieces (known : List String) (r : Record) {extra : Pieces} (hextra : error? extra = none) :
    error? (recordPieces known extra r) = recordError? known r := by
  simp [recordPieces, recordError?, error?_append, error?_referencePieces, error?_typePieces,
    error?_defaultImplPieces, error?_inherentPieces r hextra, error?_codecPieces]

theorem error?_messagePieces (m : Message) :
    error? (messagePieces m) = m.records.findSome? (recordError? m.declaredNames) := by
  have hinner : error? (m.innerRecords.flatMap fun r => blankLine :: recordPieces m.declaredNames [] r) =
      m.innerRecords.findSome? (recordError? m.declaredNames) := by
    rw [error?_flatMap]
    simp only [error?_blankLine, error?_recordPieces m.declaredNames _ error?_nil]
  rw [Message.records, List.findSome?_cons, messagePieces]
  simp only [List.cons_append, error?_blankLine, error?_append, error?_commentPieces, hinner,
    error?_recordPieces m.declaredNames m.record (error?_messageOnlyPieces m)]
  cases recordError? m.declaredNames m.record <;> rfl

theorem error?_group (ms : List Message) :
    error? (ms.flatMap messagePieces) =
      (ms.flatMap fun m => m.records.map (m, ·)).findSome? fun x => recordError? x.1.declaredNames x.2 := by
  rw [error?_flatMap, Address.findSome?_flatMap]
  simp only [error?_messagePieces, List.findSome?_map]
  rfl

theorem compileGroup_eq_error {path : String} {ms : List Message} {e : Error} :
    compileGroup path ms = .error e ↔ error? (ms.flatMap messagePieces) = some e := by
  rw [compileGroup, compileAll_eq]
  generalize Sheet.withPrelude (preludeFor path) = s
  rw [← s.writePieces_snd]
  rcases s.writePieces (ms.flatMap messagePieces) with ⟨s', _ | e'⟩ <;> simp [finish]

/-- A group is refused for the error of the first structure at fault, so if any is at fault. An error about a
default is one of a field that is neither an array nor a byte blob nor a structure. -/
theorem compileGroup_first_fault (path : String) (ms : List Message) :
    (∀ e, compileGroup path ms = .error e ↔
      ∃ p m r, groupAt? ms p = some (m, r) ∧ RecordFault m.declaredNames r e ∧
        ∀ q, q.Before p → ∀ m' r', groupAt? ms q = some (m', r') → Sound m'.declaredNames r') ∧
    ((∃ e, compileGroup path ms = .error e) ↔
      ∃ p m r, groupAt? ms p = some (m, r) ∧
        ∃ f ∈ r.fields, (∃ name, Dangles m.declaredNames f name) ∨ ∃ cause, Misfit f cause) ∧
    ∀ owner field cause, compileGroup path ms = .error (.default owner field cause) →
      ∃ p m r, groupAt? ms p = some (m, r) ∧ r.name = owner ∧
        ∃ f ∈ r.fields, f.name = field ∧ f.type.isArray = false ∧
          ∃ primitive, f.type.element = .primitive primitive ∧ primitive ≠ .bytes := by
  have hfirst (e : Error) : compileGroup path ms = .error e ↔
      ∃ p m r, groupAt? ms p = some (m, r) ∧ RecordFault m.declaredNames r e ∧
        ∀ q, q.Before p → ∀ m' r', groupAt? ms q = some (m', r') → Sound m'.declaredNames r' := by
    rw [compileGroup_eq_error, error?_group, (lists_group ms).findSome?_eq_some]
    simp only [Prod.exists, Prod.forall, recordError?_eq_some, recordError?_eq_none]
  refine ⟨hfirst, ?_, ?_⟩
  · simp only [compileGroup_eq_error, error?_group, (lists_group ms).exists_findSome?_eq_some, ne_eq, Prod.exists,
      recordError?_eq_none, not_sound_iff]
  · intro owner field cause he
    obtain ⟨p, m, r, hat, hfault, _⟩ := (hfirst _).mp he
    obtain ⟨f, hf, ⟨_, _, heq⟩ | ⟨_, hcause, heq⟩⟩ := hfault.exists_field
    · cases heq
    · cases heq
      exact ⟨p, m, r, hat, rfl, f, hf, rfl, hcause.single_primitive⟩

end WireSchema.Source
