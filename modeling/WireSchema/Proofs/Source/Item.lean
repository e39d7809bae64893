import Mathlib.Data.List.Forall2
import WireSchema.Proofs.Source.Check
import WireSchema.Proofs.Text.Lines
import WireSchema.Proofs.Text.Utf8

/-!
The pieces of a source and their line numbers. The pieces tile the source: each begins where the one before it
ends, and its first line has the next number. So a line of a piece is found in the source by a shift that is the
same for all lines of the piece, and a fault is reported at the line of the source that holds it. `Cutter` cuts the
bytes of the source at offsets that it counts, and finds the same pieces.
-/

namespace WireSchema.Source

open WireSchema.Text

/-! ## Pieces that tile a text -/

/-- The pieces lie end to end over a text that begins at line `first`. All but the last end in a line feed. -/
inductive Tiles : Nat → List Char → List Item → Prop where
  | done (first : Nat) : Tiles first [] []
  | last {first : Nat} {text : List Char} (hne : text ≠ []) : Tiles first text [⟨first, text⟩]
  | cut {first : Nat} {piece text : List Char} {is : List Item} (hend : piece.getLast? = some '\n')
      (hrest : Tiles (first + piece.count '\n') text is) : Tiles first (piece ++ text) (⟨first, piece⟩ :: is)

namespace Tiles

theorem flatMap_text {first : Nat} {text : List Char} {is : List Item} (h : Tiles first text is) :
    is.flatMap Item.text = text := by
  induction h with
  | done first => rfl
  | last hne => simp
  | cut hend _ ih => rw [List.flatMap_cons, ih]

theorem tail {first : Nat} {text : List Char} {i : Item} {back : List Item} (h : Tiles first text (i :: back)) :
    ∃ rest, Tiles (first + i.text.count '\n') rest back := by
  cases h with
  | last hne => exact ⟨[], .done _⟩
  | cut hend hrest => exact ⟨_, hrest⟩

/-- What follows some pieces tiles what follows their text. -/
theorem drop {first : Nat} {text : List Char} {front back : List Item} (h : Tiles first text (front ++ back)) :
    ∃ rest, Tiles (first + (front.flatMap Item.text).count '\n') rest back := by
  induction front generalizing first text with
  | nil => exact ⟨text, h⟩
  | cons i front ih =>
      obtain ⟨rest, hrest⟩ := h.tail
      rw [List.flatMap_cons, List.count_append, ← Nat.add_assoc]
      exact ih hrest

theorem head {first : Nat} {text : List Char} {i : Item} {back : List Item} (h : Tiles first text (i :: back)) :
    i.firstLine = first ∧ i.text ≠ [] ∧ (back ≠ [] → i.text.getLast? = some '\n') := by
  cases h with
  | last hne => exact ⟨rfl, hne, fun hback => absurd rfl hback⟩
  | cut hend _ =>
      refine ⟨rfl, ?_, fun _ => hend⟩
      rintro rfl
      cases hend

/-- The lines of a piece are lines of the text, and the number of its first line says by how much they move. -/
theorem at?_text {first : Nat} {text : List Char} {is : List Item} (h : Tiles first text is) {i : Item}
    (hi : i ∈ is) {n : Nat} {l : List Char} (hl : Lines.at? i.text n = some l) :
    ∃ shift, i.firstLine = first + shift ∧ Lines.at? text (shift + n) = some l := by
  induction h with
  | done first => cases hi
  | last hne =>
      obtain rfl := List.mem_singleton.mp hi
      exact ⟨0, rfl, by rwa [Nat.zero_add]⟩
  | @cut first piece text is hend _ ih =>
      rcases List.mem_cons.mp hi with rfl | hi
      · exact ⟨0, rfl, by rw [Nat.zero_add, Lines.at?_append_of_left (Or.inr hend) text hl]⟩
      · obtain ⟨shift, hfirst, hline⟩ := ih hi
        refine ⟨piece.count '\n' + shift, by rw [hfirst, Nat.add_assoc], ?_⟩
        rw [Nat.add_assoc]
        exact Lines.at?_append_of_right (Or.inr hend) hline

end Tiles

theorem tiles_taken (number first depth : Nat) (taken : List Char) :
    Tiles first taken (itemsFrom number first depth taken []) := by
  cases taken with
  | nil => exact .done first
  | cons c taken => exact .last (List.cons_ne_nil c taken)

/-- While the source is cut, the number of the next line is that of the first line of the unfinished piece plus the
line feeds taken. -/
theorem tiles_itemsFrom {first depth : Nat} {taken : List Char} (htaken : Lines.Finished taken)
    (source : List Char) :
    Tiles first (taken ++ source)
      (itemsFrom (first + taken.count '\n') first depth taken (Lines.inclusive source)) := by
  induction source using Lines.text_induction generalizing first depth taken with
  | last l hl =>
      by_cases hne : l = []
      · rw [hne, List.append_nil]
        exact tiles_taken _ first depth taken
      · rw [Lines.inclusive_of_not_mem hne hl, itemsFrom]
        split
        · exact .last (List.append_ne_nil_of_right_ne_nil taken hne)
        · exact tiles_taken _ first _ (taken ++ l)
  | line l source hl ih =>
      have htext : taken ++ (l ++ '\n' :: source) = (taken ++ (l ++ ['\n'])) ++ source := by simp
      have hend : (taken ++ (l ++ ['\n'])).getLast? = some '\n' := by simp
      have hcount : first + taken.count '\n' + 1 = first + (taken ++ (l ++ ['\n'])).count '\n' := by
        simp [List.count_eq_zero.mpr hl, Nat.add_assoc]
      rw [Lines.inclusive_line hl, itemsFrom, htext, hcount]
      split
      · exact .cut hend (ih (Or.inl rfl))
      · exact ih (Or.inr hend)

theorem tiles_items (source : List Char) : Tiles 1 source (items source) :=
  tiles_itemsFrom (Or.inl rfl) source

/-! ## Pieces by offsets -/

/-- The bytes of a text. -/
def bytesOf (text : List Char) : List UInt8 :=
  Utf8.encode (String.ofList text)

theorem bytesOf_append (front back : List Char) : bytesOf (front ++ back) = bytesOf front ++ bytesOf back := by
  simp only [bytesOf, Utf8.encode_eq_flatMap, String.toList_ofList, List.flatMap_append]

theorem bytesOf_nil : bytesOf [] = [] :=
  List.append_right_eq_self.mp (bytesOf_append [] []).symm

theorem bytesOf_ne_nil {text : List Char} (h : text ≠ []) : bytesOf text ≠ [] := by
  intro hnone
  rw [← bytesOf_nil] at hnone
  exact h (String.ofList_inj.mp (Utf8.encode_inj hnone))

/-- Where the cutting of a source stands, in offsets into its bytes: `start` is that of the unfinished piece, whose
first line is `startLine`, and `offset` is that of the next line. -/
structure Cutter where
  found : List (Nat × List UInt8) := []
  depth : Nat := 0
  start : Nat := 0
  startLine : Nat := 1
  offset : Nat := 0

namespace Cutter

/-- Goes past a line, the one with the index `i`. -/
def pass (source : List UInt8) (c : Cutter) (line : List Char) (i : Nat) : Cutter :=
  let depth := (delta line).apply c.depth
  let offset := c.offset + (bytesOf line).length
  if depth = 0 ∧ endsItem line then
    { found := c.found ++ [(c.startLine, (source.take offset).drop c.start)], depth, start := offset,
      startLine := i + 2, offset }
  else { c with depth, offset }

def run (source : List UInt8) (c : Cutter) (lines : List (List Char)) (i : Nat) : Cutter :=
  (lines.zipIdx i).foldl (fun c l => c.pass source l.1 l.2) c

/-- What is left after the last line is a piece too. -/
def finish (source : List UInt8) (c : Cutter) : List (Nat × List UInt8) :=
  if c.start < source.length then c.found ++ [(c.startLine, source.drop c.start)] else c.found

/-- The pieces of a source with the numbers of their first lines. -/
def pieces (source : String) : List (Nat × List UInt8) :=
  let bytes := Utf8.encode source
  (run bytes {} (Lines.inclusive source.toList) 0).finish bytes

/-- The source is `front`, where no piece is unfinished, the text `taken` of the unfinished piece and the lines to
come. -/
structure Stands (c : Cutter) (source : List UInt8) (front taken : List Char) (lines : List (List Char)) : Prop where
  source_eq : source = bytesOf front ++ bytesOf taken ++ bytesOf lines.flatten
  start_eq : c.start = (bytesOf front).length
  offset_eq : c.offset = (bytesOf front ++ bytesOf taken).length

variable {c : Cutter} {source : List UInt8} {front taken line : List Char} {lines : List (List Char)}

theorem Stands.finish_eq (h : c.Stands source front taken []) (number depth : Nat) :
    c.finish source =
      c.found ++ (itemsFrom number c.startLine depth taken []).map fun i => (i.firstLine, bytesOf i.text) := by
  have hsource : source = bytesOf front ++ bytesOf taken := by
    rw [h.source_eq, List.flatten_nil, bytesOf_nil, List.append_nil]
  rw [finish, h.start_eq, hsource, List.drop_left, List.length_append]
  cases taken with
  | nil =>
      rw [bytesOf_nil, List.length_nil, Nat.add_zero, if_neg (Nat.lt_irrefl _)]
      exact (List.append_nil _).symm
  | cons t taken =>
      have hpos := List.length_pos_iff.mpr (bytesOf_ne_nil (List.cons_ne_nil t taken))
      rw [if_pos (Nat.lt_add_of_pos_right hpos)]
      rfl

/-- One line further. The slice from the start of the unfinished piece to the end of the line is the piece with the
line. -/
theorem Stands.advance (h : c.Stands source front taken (line :: lines)) :
    c.offset + (bytesOf line).length = (bytesOf front ++ bytesOf (taken ++ line)).length ∧
      source = bytesOf front ++ bytesOf (taken ++ line) ++ bytesOf lines.flatten ∧
      (source.take (c.offset + (bytesOf line).length)).drop c.start = bytesOf (taken ++ line) := by
  have hoffset : c.offset + (bytesOf line).length = (bytesOf front ++ bytesOf (taken ++ line)).length := by
    rw [h.offset_eq, bytesOf_append, ← List.append_assoc, ← List.length_append]
  have hsource : source = bytesOf front ++ bytesOf (taken ++ line) ++ bytesOf lines.flatten := by
    rw [h.source_eq, List.flatten_cons]
    simp only [bytesOf_append, List.append_assoc]
  refine ⟨hoffset, hsource, ?_⟩
  rw [hoffset, h.start_eq, hsource, List.take_left, List.drop_left]

theorem Stands.finish_run (h : c.Stands source front taken lines) (i : Nat) :
    (c.run source lines i).finish source =
      c.found ++ (itemsFrom (i + 1) c.startLine c.depth taken lines).map fun i => (i.firstLine, bytesOf i.text) := by
  induction lines generalizing c front taken i with
  | nil => exact h.finish_eq _ _
  | cons line lines ih =>
      obtain ⟨hoffset, hsource, hpiece⟩ := h.advance
      rw [run, List.zipIdx_cons, List.foldl_cons, itemsFrom]
      change ((c.pass source line i).run source lines (i + 1)).finish source = _
      by_cases hend : (delta line).apply c.depth = 0 ∧ endsItem line
      · have hpass : c.pass source line i =
            ⟨c.found ++ [(c.startLine, bytesOf (taken ++ line))], (delta line).apply c.depth,
              c.offset + (bytesOf line).length, i + 2, c.offset + (bytesOf line).length⟩ := by
          simp only [pass, if_pos hend, hpiece]
        have hstands : (c.pass source line i).Stands source (front ++ (taken ++ line)) [] lines := by
          rw [hpass]
          constructor
          case source_eq => rwa [bytesOf_append front, bytesOf_nil, List.append_nil]
          case start_eq => rwa [bytesOf_append front]
          case offset_eq => rwa [bytesOf_append front, bytesOf_nil, List.append_nil]
        rw [ih hstands, hpass, if_pos hend, List.map_cons, List.append_assoc]
        rfl
      · have hpass : c.pass source line i =
            { c with depth := (delta line).apply c.depth, offset := c.offset + (bytesOf line).length } := by
          simp only [pass, if_neg hend]
        have hstands : (c.pass source line i).Stands source front (taken ++ line) lines := by
          rw [hpass]
          exact ⟨hsource, h.start_eq, hoffset⟩
        rw [ih hstands, hpass, if_neg hend]

/-- The slices of the bytes are the bytes of the pieces. -/
theorem pieces_eq (source : String) :
    pieces source = (items source.toList).map fun i => (i.firstLine, bytesOf i.text) := by
  have hbytes : Utf8.encode source = bytesOf source.toList := by
    rw [bytesOf, String.ofList_toList]
  have hstands : Stands {} (Utf8.encode source) [] [] (Lines.inclusive source.toList) :=
    ⟨by rw [Lines.flatten_inclusive, hbytes, bytesOf_nil]; rfl, by rw [bytesOf_nil]; rfl, by rw [bytesOf_nil]; rfl⟩
  exact hstands.finish_run 0

end Cutter

/-! ## Faults of pieces -/

/-- The pieces that are not well formed by themselves, with the place where each stops being so. -/
def brokenItems [Parser] (source : String) : List (Item × Grammar.Location) :=
  (items source.toList).filterMap fun i => (Parser.fault? (String.ofList i.text)).map (i, ·)

/-- The diagnostic is about a place in a piece: it names the line of the source, and shows the line of the piece with
a caret at the column. -/
structure Diagnostic.PointsTo (d : Diagnostic) (i : Item) (p : Grammar.Location) : Prop where
  line : d.line = p.line + i.firstLine - 1
  column : d.column = p.column
  shown : ∀ l, Lines.at? i.text p.line = some l →
    ∃ above, d.context = above ++ [Lines.chomp l, Diagnostic.caretLine (Lines.chomp l) p.column].map String.ofList

theorem contextOf_of_at? {source : String} {line : Nat} {l : List Char} (hl : Lines.at? source.toList line = some l)
    (column : Nat) :
    ∃ above, Diagnostic.contextOf source line column =
      above ++ [Lines.chomp l, Diagnostic.caretLine (Lines.chomp l) column].map String.ofList := by
  cases line with
  | zero => cases hl
  | succ n =>
      have hplain : (Lines.plain source.toList)[n]? = some (Lines.chomp l) := by
        rw [Lines.plain, List.getElem?_map, show (Lines.inclusive source.toList)[n]? = some l from hl, Option.map_some]
      rw [Diagnostic.contextOf, if_pos (Nat.le_add_left 1 n), Nat.add_sub_cancel, hplain, List.map_append]
      exact ⟨_, rfl⟩

theorem at?_source {source : List Char} {i : Item} (hi : i ∈ items source) {n : Nat} {l : List Char}
    (hl : Lines.at? i.text n = some l) : Lines.at? source (n + i.firstLine - 1) = some l := by
  obtain ⟨shift, hfirst, hline⟩ := (tiles_items source).at?_text hi hl
  rwa [show n + i.firstLine - 1 = shift + n by omega]

theorem pointsTo_reportFault (path : String) {source : String} {i : Item} (hi : i ∈ items source.toList)
    (p : Grammar.Location) : (reportFault path source i.firstLine p).PointsTo i p := by
  obtain ⟨front, back, hitems⟩ := List.append_of_mem hi
  have hfirst : 1 ≤ i.firstLine := by
    obtain ⟨rest, hrest⟩ := Tiles.drop (hitems ▸ tiles_items source.toList)
    have := hrest.head.1
    omega
  have hline : p.line + (i.firstLine - 1) = p.line + i.firstLine - 1 := by omega
  refine ⟨hline, rfl, fun l hl => ?_⟩
  rw [reportFault, Diagnostic.locate, hline]
  exact contextOf_of_at? (at?_source hi hl) p.column

section Parser

variable [Parser]

theorem itemFaults_eq (path source : String) :
    itemFaults path source = (brokenItems source).map fun b => reportFault path source b.1.firstLine b.2 := by
  rw [itemFaults, brokenItems, List.map_filterMap]
  simp only [Option.map_map, Function.comp_def]

theorem faults_of_broken (path : String) {source : String} (hsource : Parser.fault? source ≠ none)
    (hbroken : brokenItems source ≠ []) : faults path source = itemFaults path source := by
  have hfound : itemFaults path source ≠ [] := by
    rw [itemFaults_eq]
    exact mt List.map_eq_nil_iff.mp hbroken
  obtain ⟨p, hp⟩ := Option.ne_none_iff_exists'.mp hsource
  rw [faults, hp]
  dsimp only
  split
  · rename_i hnone
    exact absurd hnone hfound
  · rfl

/-- The pieces are not empty and together they are the source. Each but the last ends in a line feed, its first line
has the number after the line feeds before it, and a line of it is the line of the source that the shift gives. If
pieces of a source that is not well formed are not so by themselves, each is reported where it stands in the
source. -/
theorem items_partition (path source : String) :
    (items source.toList).flatMap Item.text = source.toList ∧
      (∀ front i back, items source.toList = front ++ i :: back →
        i.text ≠ [] ∧ (back ≠ [] → i.text.getLast? = some '\n') ∧
          i.firstLine = 1 + (front.flatMap Item.text).count '\n' ∧
          ∀ n l, Lines.at? i.text n = some l → Lines.at? source.toList (n + i.firstLine - 1) = some l) ∧
      (Parser.fault? source ≠ none → brokenItems source ≠ [] →
        List.Forall₂ (fun d b => d.PointsTo b.1 b.2) (faults path source) (brokenItems source)) := by
  refine ⟨(tiles_items source.toList).flatMap_text, ?_, ?_⟩
  · intro front i back hitems
    obtain ⟨rest, hrest⟩ := Tiles.drop (hitems ▸ tiles_items source.toList)
    obtain ⟨hfirst, hne, hend⟩ := hrest.head
    have hi : i ∈ items source.toList := hitems ▸ List.mem_append_right front List.mem_cons_self
    exact ⟨hne, hend, hfirst, fun n l hl => at?_source hi hl⟩
  · intro hsource hbroken
    rw [faults_of_broken path hsource hbroken, itemFaults_eq, List.forall₂_map_left_iff, List.forall₂_same]
    intro b hb
    obtain ⟨i, hi, hfault⟩ := List.mem_filterMap.mp hb
    obtain ⟨p, -, rfl⟩ := Option.map_eq_some_iff.mp hfault
    exact pointsTo_reportFault path hi p

end Parser

/-- A source of two pieces, of which the second has a fault in its second line. -/
def brokenSecond : String := "use a;\nfn b() \x7b\nlet y = ;\n\x7d\n"

theorem items_partition_brokenSecond :
    brokenItems brokenSecond = [(⟨2, "fn b() \x7b\nlet y = ;\n\x7d\n".toList⟩, ⟨2, 8⟩)] ∧
      ∃ d, faults "b.rs" brokenSecond = [d] ∧ d.line = 3 ∧ d.column = 8 ∧
        ∃ above, d.context = above ++ ["let y = ;", "        ^"] := by
  have hsource : Parser.fault? brokenSecond ≠ none := by decide +kernel
  have hbroken : brokenItems brokenSecond = [(⟨2, "fn b() \x7b\nlet y = ;\n\x7d\n".toList⟩, ⟨2, 8⟩)] := by
    decide +kernel
  have hall := (items_partition "b.rs" brokenSecond).2.2 hsource (by rw [hbroken]; exact List.cons_ne_nil _ _)
  rw [hbroken, List.forall₂_cons_right_iff] at hall
  obtain ⟨d, rest, hd, hrest, hfaults⟩ := hall
  rw [List.forall₂_nil_right_iff.mp hrest] at hfaults
  exact ⟨hbroken, d, hfaults, hd.line, hd.column, hd.shown "let y = ;\n".toList (by decide +kernel)⟩

end WireSchema.Source
