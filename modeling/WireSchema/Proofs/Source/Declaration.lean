import WireSchema.Proofs.Name.Keyword
import WireSchema.Proofs.Source.Balance

/-!
The types that a source declares. They are read off the pieces: a type begins with its opening line and has a
member for each line that begins like one, up to the first closing brace. A group declares one type for each
of its structures, under the name of the structure and with one member for each field, and nothing checks
that the names differ. So two declarations collide just when two structures share a name, or two fields of a
structure have snake forms that give one identifier.
-/

namespace WireSchema.Source

open WireSchema.Text WireSchema.Schema WireSchema.Version

/-! ## Reading declarations -/

/-- What follows `start` in the text, if the text begins so. -/
def dropStart? (text start : String) : Option String :=
  if start.toList.isPrefixOf text.toList then
    some (String.ofList (text.toList.drop start.toList.length))
  else none

theorem dropStart?_eq_some {text start rest : String} :
    dropStart? text start = some rest ↔ text = start ++ rest := by
  rw [dropStart?]
  constructor
  · intro h
    split at h
    · rename_i hstart
      obtain ⟨back, hback⟩ := List.isPrefixOf_iff_prefix.mp hstart
      cases h
      rw [← String.toList_inj, String.toList_append, String.toList_ofList, ← hback, List.drop_left]
    · cases h
  · rintro rfl
    rw [String.toList_append, if_pos (List.isPrefixOf_iff_prefix.mpr (List.prefix_append _ _)), List.drop_left,
      String.ofList_toList]

theorem dropEnding?_eq_some {text ending front : String} :
    Message.dropEnding? text ending = some front ↔ text = front ++ ending := by
  rw [Message.dropEnding?]
  constructor
  · intro h
    split at h
    · rename_i hending
      obtain ⟨start, hstart⟩ := List.isSuffixOf_iff_suffix.mp hending
      cases h
      rw [← String.toList_inj, String.toList_append, String.toList_ofList, ← hstart, List.length_append,
        Nat.add_sub_cancel, List.take_left]
    · cases h
  · rintro rfl
    rw [String.toList_append, if_pos (List.isSuffixOf_iff_suffix.mpr (List.suffix_append _ _)),
      List.length_append, Nat.add_sub_cancel, List.take_left, String.ofList_toList]

/-- The name of the type that the piece opens. -/
def typeName? : Piece → Option String
  | .ok text => (dropStart? text "pub struct ").bind (Message.dropEnding? · " \x7b\n")
  | .error _ => none

/-- The identifier of the member that the piece declares. -/
def memberName? : Piece → Option String
  | .ok text =>
    (dropStart? text "pub ").bind fun rest =>
      Message.dropEnding? (String.ofList (rest.toList.takeWhile (· != ' '))) ":"
  | .error _ => none

/-- The types with the identifiers of their members. -/
def typesIn : Pieces → List (String × List String)
  | [] => []
  | p :: ps =>
    match typeName? p with
    | none => typesIn ps
    | some name => (name, (ps.takeWhile (· ≠ closeLine)).filterMap memberName?) :: typesIn ps

theorem typeName?_eq_some {p : Piece} {name : String} :
    typeName? p = some name ↔ p = braceLine ("pub struct " ++ name) := by
  cases p with
  | error e => simp [typeName?, braceLine, line]
  | ok text =>
      have hline : braceLine ("pub struct " ++ name) = .ok ("pub struct " ++ (name ++ " \x7b\n")) := by
        simp only [braceLine, line, Except.ok.injEq, String.append_assoc]
        rfl
      rw [hline, Except.ok.injEq, typeName?, Option.bind_eq_some_iff]
      constructor
      · rintro ⟨rest, hstart, hending⟩
        rw [dropStart?_eq_some.mp hstart, dropEnding?_eq_some.mp hending]
      · intro htext
        exact ⟨_, dropStart?_eq_some.mpr htext, dropEnding?_eq_some.mpr rfl⟩

/-- The piece opens no type. -/
def Quiet (p : Piece) : Prop :=
  ∀ name, p ≠ braceLine ("pub struct " ++ name)

theorem Quiet.typeName?_eq {p : Piece} (h : Quiet p) : typeName? p = none := by
  cases hname : typeName? p with
  | none => rfl
  | some name => exact absurd (typeName?_eq_some.mp hname) (h name)

/-- The pieces declare the types, whatever follows them. -/
def Declares (ps : Pieces) (types : List (String × List String)) : Prop :=
  ∀ rest, typesIn (ps ++ rest) = types ++ typesIn rest

theorem Declares.append {ps qs : Pieces} {types types' : List (String × List String)} (h : Declares ps types)
    (h' : Declares qs types') : Declares (ps ++ qs) (types ++ types') := by
  intro rest
  rw [List.append_assoc, h, h', List.append_assoc]

theorem Declares.flatMap {α : Type} {f : α → Pieces} {types : α → List (String × List String)}
    {items : List α} (h : ∀ a ∈ items, Declares (f a) (types a)) :
    Declares (items.flatMap f) (items.flatMap types) := by
  induction items with
  | nil => exact fun rest => rfl
  | cons a items ih =>
      rw [List.flatMap_cons, List.flatMap_cons]
      exact (h a List.mem_cons_self).append (ih fun b hb => h b (List.mem_cons_of_mem a hb))

theorem declares_quiet {ps : Pieces} (h : ∀ p ∈ ps, Quiet p) : Declares ps [] := by
  intro rest
  induction ps with
  | nil => rfl
  | cons p ps ih =>
      rw [List.cons_append, typesIn, (h p List.mem_cons_self).typeName?_eq]
      exact ih fun q hq => h q (List.mem_cons_of_mem p hq)

/-! ## Pieces that open no type -/

theorem quiet_of_head? {text : String} (h : text.toList.head? ≠ some 'p') : Quiet (.ok text) := by
  intro name heq
  refine h ?_
  rw [Except.ok.inj heq]
  simp

theorem quiet_of_getLast? {text : String} (h : text.toList.getLast? ≠ some '\n') : Quiet (.ok text) := by
  intro name heq
  refine h ?_
  rw [Except.ok.inj heq, String.toList_append, List.getLast?_append]
  rfl

@[simp] theorem quiet_line {text : String} (h : endsPlain text = true) : Quiet (line text) := by
  intro name heq
  have htext := (String.append_left_inj _).mp (Except.ok.inj heq)
  rw [htext, endsPlain, String.toList_append, List.getLast?_append] at h
  cases h

@[simp] theorem quiet_braceLine {head : String} (h : "pub struct ".toList.isPrefixOf head.toList = false) :
    Quiet (braceLine head) := by
  intro name heq
  have hhead := (String.append_left_inj _).mp ((String.append_left_inj _).mp (Except.ok.inj heq))
  rw [hhead, String.toList_append, List.isPrefixOf_iff_prefix.mpr (List.prefix_append _ _)] at h
  cases h

@[simp] theorem quiet_error (e : Error) : Quiet (.error e) :=
  fun _ => nofun

@[simp] theorem quiet_blankLine : Quiet blankLine :=
  quiet_of_head? (by decide)

@[simp] theorem quiet_closeLine : Quiet closeLine :=
  quiet_of_head? (by decide)

theorem quiet_remark {text : String} (h : Remark text) : Quiet (line text) := by
  obtain ⟨rest, hrest⟩ := h.2
  apply quiet_of_head?
  simp [← hrest]

theorem quiet_guardPieces (c : Condition) : ∀ p ∈ guardPieces c, Quiet p := by
  rw [guardPieces.eq_def]
  split
  · simp
  · simp +decide [List.isPrefixOf]

theorem quiet_decodeBody (f : Field) : ∀ p ∈ decodeBody f, Quiet p := by
  have hitems : ∀ p ∈ decodeItemPieces f.type.element, Quiet p := by
    cases f.type.element with
    | primitive p => simp +decide [decodeItemPieces]
    | struct name => simp +decide [decodeItemPieces]
  rw [decodeBody]
  split
  · refine List.forall_mem_append.mpr ⟨List.forall_mem_append.mpr ⟨?_, hitems⟩, ?_⟩
    · simp +decide [List.isPrefixOf]
    · simp +decide
  · split
    · simp +decide
    · simp +decide

theorem quiet_encodeBody (f : Field) : ∀ p ∈ encodeBody f, Quiet p := by
  rw [encodeBody]
  split
  · simp +decide [List.isPrefixOf, endsPlain_encodeStatement]
  · simp +decide [endsPlain_encodeStatement]

theorem quiet_helper {head : String} (hhead : "pub struct ".toList.isPrefixOf head.toList = false)
    (c : Condition) {body : Pieces} (hbody : ∀ p ∈ body, Quiet p) :
    ∀ p ∈ braceLine head :: guardPieces c ++ body ++ [line "Ok(())", closeLine], Quiet p := by
  refine List.forall_mem_append.mpr ⟨List.forall_mem_append.mpr ⟨?_, hbody⟩, by simp +decide⟩
  exact List.forall_mem_cons.mpr ⟨quiet_braceLine hhead, quiet_guardPieces c⟩

theorem quiet_helperPieces (r : Record) (f : Field) : ∀ p ∈ helperPieces r f, Quiet p := by
  refine List.forall_mem_append.mpr ⟨List.forall_mem_cons.mpr ⟨quiet_blankLine, ?_⟩,
    List.forall_mem_cons.mpr ⟨quiet_blankLine, ?_⟩⟩
  · refine quiet_helper ?_ _ (quiet_decodeBody f)
    simp [decodeSignature, List.isPrefixOf]
  · refine quiet_helper ?_ _ (quiet_encodeBody f)
    simp [encodeSignature, List.isPrefixOf]

theorem quiet_defaultPieces (owner : String) (f : Field) : ∀ p ∈ defaultPieces owner f, Quiet p := by
  have hname : Quiet (.ok (identOf f ++ ": ")) := by
    apply quiet_of_getLast?
    simp [List.getLast?_append]
  have hvalue : Quiet ((defaultText f.type f.default).mapError (.default owner f.name ·)) := by
    cases hdefault : defaultText f.type f.default with
    | error e => exact quiet_error _
    | ok text =>
        exact quiet_of_getLast? fun hlast => oneLine_defaultText hdefault (List.mem_of_getLast? hlast)
  simp +decide [defaultPieces, hname, hvalue]

theorem quiet_messageOnlyPieces (m : Message) : ∀ p ∈ messageOnlyPieces m, Quiet p := by
  have hpredicate (name : String) (c : Condition) : ∀ p ∈ predicatePieces name c, Quiet p := by
    simp +decide [predicatePieces, List.isPrefixOf, endsPlain_render]
  have hkey (key : Int16) : ∀ p ∈ apiKeyPieces key, Quiet p := by
    simp +decide [apiKeyPieces, List.isPrefixOf]
  refine List.forall_mem_append.mpr ⟨List.forall_mem_append.mpr ⟨List.forall_mem_append.mpr ⟨?_,
    hpredicate _ _⟩, List.forall_mem_cons.mpr ⟨quiet_blankLine, hpredicate _ _⟩⟩, by simp⟩
  split
  · exact hkey _
  · simp

theorem quiet_defaultImplPieces (r : Record) : ∀ p ∈ defaultImplPieces r, Quiet p := by
  have hfields : ∀ p ∈ r.fields.flatMap (defaultPieces r.name), Quiet p :=
    List.forall_mem_flatMap.mpr fun f _ => quiet_defaultPieces r.name f
  refine List.forall_mem_append.mpr ⟨List.forall_mem_append.mpr ⟨?_, hfields⟩, by simp⟩
  simp +decide [List.isPrefixOf]

theorem quiet_inherentPieces (r : Record) {extra : Pieces} (hextra : ∀ p ∈ extra, Quiet p) :
    ∀ p ∈ inherentPieces r extra, Quiet p := by
  have hhelpers : ∀ p ∈ r.fields.flatMap (helperPieces r), Quiet p :=
    List.forall_mem_flatMap.mpr fun f _ => quiet_helperPieces r f
  refine List.forall_mem_append.mpr ⟨List.forall_mem_append.mpr ⟨List.forall_mem_append.mpr
    ⟨List.forall_mem_append.mpr ⟨?_, hextra⟩, ?_⟩, hhelpers⟩, by simp⟩
  · simp +decide [List.isPrefixOf]
  · simp +decide [List.isPrefixOf]

theorem quiet_codecPieces (r : Record) : ∀ p ∈ codecPieces r, Quiet p := by
  refine List.forall_mem_append.mpr ⟨List.forall_mem_append.mpr ⟨List.forall_mem_append.mpr
    ⟨List.forall_mem_append.mpr ⟨?_, ?_⟩, ?_⟩, ?_⟩, by simp +decide⟩
  · simp +decide [List.isPrefixOf, decodeSignature]
  · exact List.forall_mem_map.mpr fun f _ => quiet_line (by simp +decide)
  · simp +decide [List.isPrefixOf, encodeSignature]
  · exact List.forall_mem_map.mpr fun f _ => quiet_line (by simp +decide)

theorem quiet_implPieces (r : Record) {extra : Pieces} (hextra : ∀ p ∈ extra, Quiet p) :
    ∀ p ∈ implPieces r extra, Quiet p := by
  refine List.forall_mem_append.mpr ⟨List.forall_mem_append.mpr ⟨?_, ?_⟩, ?_⟩
  · exact List.forall_mem_cons.mpr ⟨quiet_blankLine, quiet_defaultImplPieces r⟩
  · exact List.forall_mem_cons.mpr ⟨quiet_blankLine, quiet_inherentPieces r hextra⟩
  · exact List.forall_mem_cons.mpr ⟨quiet_blankLine, quiet_codecPieces r⟩

/-! ## The types of a group -/

theorem blank_not_mem_identOf (f : Field) : ' ' ∉ (identOf f).toList := by
  have hsnake : ' ' ∉ (snakeOf f).toList := Name.blank_not_mem_snake f.name
  rw [identOf, Name.identifier]
  split
  · simpa using hsnake
  · split
    · simpa using hsnake
    · exact hsnake

/-- The identifier of a member ends at the first blank. -/
theorem memberName?_member (f : Field) (rest : String) :
    memberName? (line ("pub " ++ identOf f ++ ": " ++ rest)) = some (identOf f) := by
  have hline : "pub " ++ identOf f ++ ": " ++ rest ++ "\n" =
      "pub " ++ (identOf f ++ ":" ++ (" " ++ rest ++ "\n")) := by
    rw [← String.toList_inj]
    simp
  have hword : String.ofList ((identOf f ++ ":" ++ (" " ++ rest ++ "\n")).toList.takeWhile (· != ' ')) =
      identOf f ++ ":" := by
    have hname : ∀ c ∈ (identOf f ++ ":").toList, (c != ' ') = true := by
      intro c hc
      rw [bne_iff_ne]
      rintro rfl
      rw [String.toList_append] at hc
      rcases List.mem_append.mp hc with hident | hcolon
      · exact blank_not_mem_identOf f hident
      · exact absurd hcolon (by decide)
    rw [← String.toList_inj, String.toList_ofList, String.toList_append, List.takeWhile_append_of_pos hname]
    simp
  rw [line, hline, memberName?, dropStart?_eq_some.mpr rfl, Option.bind_some, hword, dropEnding?_eq_some]

theorem memberName?_of_head? {text : String} (h : text.toList.head? ≠ some 'p') :
    memberName? (.ok text) = none := by
  cases hname : memberName? (.ok text) with
  | none => rfl
  | some name =>
      obtain ⟨rest, hstart, _⟩ := Option.bind_eq_some_iff.mp hname
      rw [dropStart?_eq_some.mp hstart] at h
      exact absurd (by simp) h

/-- Pieces of the body of a type: they neither open a type nor end this one. -/
def Inside (p : Piece) : Prop :=
  Quiet p ∧ p ≠ closeLine

theorem inside_memberPieces (f : Field) : ∀ p ∈ memberPieces f, Inside p := by
  have habout : ∀ p ∈ aboutPieces f.about, Inside p := by
    intro p hp
    obtain ⟨text, rfl, htext⟩ := remark_of_mem_aboutPieces hp
    refine ⟨quiet_remark htext, fun heq => ?_⟩
    obtain ⟨rest, hrest⟩ := htext.2
    have hhead := congrArg (fun text => text.toList.head?) (Except.ok.inj heq)
    simp [← hrest] at hhead
  have hline {text : String} (hends : endsPlain text = true) : Inside (line text) := by
    refine ⟨quiet_line hends, fun heq => ?_⟩
    rw [(String.append_left_inj _).mp (Except.ok.inj heq)] at hends
    exact absurd hends (by decide)
  refine List.forall_mem_append.mpr ⟨habout, List.forall_mem_cons.mpr
    ⟨hline ?_, List.forall_mem_singleton.mpr (hline ?_)⟩⟩
  · simp +decide
  · simp +decide

theorem filterMap_memberPieces (f : Field) : (memberPieces f).filterMap memberName? = [identOf f] := by
  have habout : (aboutPieces f.about).filterMap memberName? = [] := by
    refine List.filterMap_eq_nil_iff.mpr fun p hp => ?_
    obtain ⟨text, rfl, htext⟩ := remark_of_mem_aboutPieces hp
    obtain ⟨rest, hrest⟩ := htext.2
    apply memberName?_of_head?
    simp [← hrest]
  have hrename : memberName? (line ("#[serde(rename = \"" ++ snakeOf f ++ "\")]")) = none := by
    apply memberName?_of_head?
    simp
  have hmember : memberName? (line ("pub " ++ identOf f ++ ": " ++ fieldType f.type ++ ",")) =
      some (identOf f) := by
    have hname := memberName?_member f (fieldType f.type ++ ",")
    rwa [← String.append_assoc] at hname
  rw [memberPieces, List.filterMap_append, habout, List.nil_append, List.filterMap_cons, hrename,
    List.filterMap_cons, hmember]
  rfl

theorem forall_mem_separated {P : Piece → Prop} (hblank : P blankLine) {parts : List Pieces}
    (h : ∀ ps ∈ parts, ∀ p ∈ ps, P p) : ∀ p ∈ separated parts, P p := by
  induction parts with
  | nil => exact fun p hp => absurd hp List.not_mem_nil
  | cons ps parts ih =>
      have hps := h ps List.mem_cons_self
      cases parts with
      | nil => exact hps
      | cons qs parts =>
          refine List.forall_mem_append.mpr ⟨hps, List.forall_mem_cons.mpr ⟨hblank, ?_⟩⟩
          exact ih fun ps' hps' => h ps' (List.mem_cons_of_mem ps hps')

theorem filterMap_separated {α : Type} {f : Piece → Option α} (hblank : f blankLine = none)
    (parts : List Pieces) : (separated parts).filterMap f = parts.flatMap (·.filterMap f) := by
  induction parts with
  | nil => rfl
  | cons ps parts ih =>
      cases parts with
      | nil => simp [separated]
      | cons qs parts =>
          have hsplit : separated (ps :: qs :: parts) = ps ++ blankLine :: separated (qs :: parts) := rfl
          rw [hsplit, List.filterMap_append, List.filterMap_cons_none hblank, ih]
          rfl

/-- What is read of a structure. -/
def declaration (r : Record) : String × List String :=
  (r.name, r.fields.map identOf)

theorem declares_typePieces (r : Record) : Declares (typePieces r) [declaration r] := by
  have hinside : ∀ p ∈ separated (r.fields.map memberPieces), Inside p := by
    refine forall_mem_separated ⟨quiet_blankLine, by decide⟩ fun ps hps => ?_
    obtain ⟨f, _, rfl⟩ := List.mem_map.mp hps
    exact inside_memberPieces f
  have hnames : (separated (r.fields.map memberPieces)).filterMap memberName? = r.fields.map identOf := by
    rw [filterMap_separated (memberName?_of_head? (by decide)), List.flatMap_map, List.map_eq_flatMap]
    exact List.flatMap_congr fun f _ => filterMap_memberPieces f
  have hbody : Declares (separated (r.fields.map memberPieces) ++ [closeLine]) [] :=
    declares_quiet (List.forall_mem_append.mpr ⟨fun p hp => (hinside p hp).1, by simp⟩)
  have hderive : Quiet (line "#[derive(Debug, Clone, PartialEq, Serialize, Deserialize)]") :=
    quiet_line (by decide)
  intro rest
  have hmembers : ((separated (r.fields.map memberPieces) ++ [closeLine] ++ rest).takeWhile (· ≠ closeLine)) =
      separated (r.fields.map memberPieces) := by
    rw [List.append_assoc, List.takeWhile_append_of_pos fun p hp => decide_eq_true (hinside p hp).2]
    simp
  have hsplit : typePieces r ++ rest =
      line "#[derive(Debug, Clone, PartialEq, Serialize, Deserialize)]" ::
        braceLine ("pub struct " ++ r.name) ::
          (separated (r.fields.map memberPieces) ++ [closeLine] ++ rest) := rfl
  rw [hsplit, typesIn, hderive.typeName?_eq, typesIn, typeName?_eq_some.mpr rfl, hmembers, hnames, hbody]
  rfl

theorem declares_recordPieces (known : List String) {extra : Pieces} (hextra : ∀ p ∈ extra, Quiet p)
    (r : Record) : Declares (recordPieces known extra r) [declaration r] := by
  have hreferences : Declares (referencePieces known r) [] := by
    refine declares_quiet fun p hp => ?_
    obtain ⟨e, rfl⟩ := error_of_mem_referencePieces r hp
    exact quiet_error e
  rw [recordPieces_eq]
  exact hreferences.append ((declares_typePieces r).append (declares_quiet (quiet_implPieces r hextra)))

theorem declares_messagePieces (m : Message) : Declares (messagePieces m) (m.records.map declaration) := by
  have hcomments : ∀ p ∈ blankLine :: commentPieces m.comments, Quiet p := by
    refine List.forall_mem_cons.mpr ⟨quiet_blankLine, fun p hp => ?_⟩
    obtain ⟨text, rfl, htext⟩ := remark_of_mem_commentPieces hp
    exact quiet_remark htext
  have hrecord := declares_recordPieces m.declaredNames (quiet_messageOnlyPieces m) m.record
  have hinner : Declares (m.innerRecords.flatMap fun r => blankLine :: recordPieces m.declaredNames [] r)
      (m.innerRecords.flatMap fun r => [declaration r]) := by
    have hblank : Declares [blankLine] [] := declares_quiet (by simp)
    exact .flatMap fun r _ => hblank.append (declares_recordPieces m.declaredNames (by simp) r)
  rw [Message.records, List.map_cons, List.map_eq_flatMap]
  exact ((declares_quiet hcomments).append hrecord).append hinner

theorem typesIn_group (ms : List Message) :
    typesIn (ms.flatMap messagePieces) = (ms.flatMap Message.records).map declaration := by
  have hall : Declares (ms.flatMap messagePieces) (ms.flatMap fun m => m.records.map declaration) :=
    .flatMap fun m _ => declares_messagePieces m
  have htypes := hall []
  rwa [List.append_nil, typesIn, List.append_nil, ← List.map_flatMap] at htypes

/-! ## Collisions -/

/-- No two types have the same name and no two members of a type have the same identifier. -/
structure Distinct (types : List (String × List String)) : Prop where
  names : (types.map Prod.fst).Nodup
  members : ∀ t ∈ types, t.2.Nodup

/-- The fields have the same snake form, or that of one is a keyword and that of the other its raw form. -/
def Clash (f g : Field) : Prop :=
  snakeOf f = snakeOf g ∨ Name.RawForm (snakeOf f) (snakeOf g) ∨ Name.RawForm (snakeOf g) (snakeOf f)

instance (f g : Field) : Decidable (Clash f g) :=
  inferInstanceAs (Decidable (_ ∨ _))

theorem identOf_eq_iff (f g : Field) : identOf f = identOf g ↔ Clash f g :=
  Name.identifier_eq_iff (Name.getLast?_snake_ne f.name) (Name.getLast?_snake_ne g.name)

theorem nodup_identOf_iff (fields : List Field) :
    (fields.map identOf).Nodup ↔ fields.Pairwise fun f g => ¬ Clash f g := by
  rw [List.Nodup, List.pairwise_map]
  simp only [ne_eq, identOf_eq_iff]

theorem distinct_declarations_iff (rs : List Record) :
    Distinct (rs.map declaration) ↔
      (rs.map Record.name).Nodup ∧ ∀ r ∈ rs, r.fields.Pairwise fun f g => ¬ Clash f g := by
  have hnames : (rs.map declaration).map Prod.fst = rs.map Record.name := by
    rw [List.map_map]
    rfl
  have hmembers : (∀ t ∈ rs.map declaration, t.2.Nodup) ↔
      ∀ r ∈ rs, r.fields.Pairwise fun f g => ¬ Clash f g := by
    simp only [List.forall_mem_map, declaration, nodup_identOf_iff]
  constructor
  · intro h
    exact ⟨hnames ▸ h.names, hmembers.mp h.members⟩
  · intro h
    exact ⟨hnames ▸ h.1, hmembers.mpr h.2⟩

/-- A group that is compiled declares one type for each structure of its messages, under the name of the
structure and with one member for each field. These collide unless no two structures of the group have the
same name and no two fields of a structure clash. -/
theorem compileGroup_distinct_iff {path : String} {ms : List Message} {file : Sheet}
    (h : compileGroup path ms = .ok file) :
    (Sheet.withPrelude (preludeFor path)).writePieces (ms.flatMap messagePieces) = (file, none) ∧
      typesIn (ms.flatMap messagePieces) =
        (ms.flatMap Message.records).map (fun r => (r.name, r.fields.map identOf)) ∧
      (Distinct (typesIn (ms.flatMap messagePieces)) ↔
        ((ms.flatMap Message.records).map Record.name).Nodup ∧
          ∀ r ∈ ms.flatMap Message.records, r.fields.Pairwise fun f g => ¬ Clash f g) := by
  refine ⟨?_, typesIn_group ms, ?_⟩
  · rw [compileGroup, compileAll_eq] at h
    exact eq_of_finish_eq_ok h
  · rw [typesIn_group]
    exact distinct_declarations_iff _

def byteField (name : String) : Field :=
  { name := name, type := ⟨.primitive .int8, false⟩, versions := some (.openFrom 0) }

def pairField (name type : String) (members : List String) : Field :=
  { name := name, type := ⟨.struct type, true⟩, versions := some (.openFrom 0),
    fields := members.map byteField }

/-- Two messages with fields that differ from a keyword or from each other in little. -/
def closeGroup : List Message := [
  { kind := .header, name := "Old", fields := [pairField "Type" "Part" ["type_x", "Self", "self0"]] },
  { kind := .request, name := "New",
    fields := [pairField "r#Types" "part" ["Id", "Id2", "crate"], byteField "Types"] }]

theorem compileGroup_distinct_closeGroup :
    (∃ file, compileGroup defaultRuntimePath closeGroup = .ok file) ∧
      Distinct (typesIn (closeGroup.flatMap messagePieces)) := by
  obtain ⟨file, hfile⟩ : ∃ file, compileGroup defaultRuntimePath closeGroup = .ok file := ⟨_, rfl⟩
  exact ⟨⟨file, hfile⟩, (compileGroup_distinct_iff hfile).2.2.mpr ⟨by decide, by decide⟩⟩

/-- A structure declared under the name of its message, with two fields that have one snake form. -/
def collidingHeader : Message :=
  { kind := .header, name := "H", fields := [pairField "A" "H" ["Id", "id"]] }

theorem compileGroup_collidingHeader :
    (∃ file, compileGroup defaultRuntimePath [collidingHeader] = .ok file) ∧
      ¬ ((typesIn ([collidingHeader].flatMap messagePieces)).map Prod.fst).Nodup ∧
      ¬ ∀ t ∈ typesIn ([collidingHeader].flatMap messagePieces), t.2.Nodup := by
  rw [typesIn_group]
  exact ⟨⟨_, rfl⟩, by decide, by decide⟩

end WireSchema.Source
