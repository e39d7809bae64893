import WireSchema.Grammar.Lexer

/-!
Cutting a text into tokens, one token after another. The places of the characters matter only where they tell one
character from another, so a token is followed by its kind and its text alone. A text is cut into the tokens of its
words if each word is cut so before the rest.
-/

namespace WireSchema.Grammar

open WireSchema.Text

/-! ## Places -/

/-- The first place comes before the second one in a text. -/
def Location.Before (p q : Location) : Prop :=
  p.line < q.line ∨ p.line = q.line ∧ p.column < q.column

theorem before_of_mem_locateFrom {p q : Location} (hpq : p.Before q) {cs : List Char} {x : Char × Location}
    (hx : x ∈ locateFrom q cs) : p.Before x.2 := by
  induction cs generalizing q with
  | nil => cases hx
  | cons c cs ih =>
      rw [locateFrom] at hx
      rcases List.mem_cons.mp hx with rfl | hx
      · exact hpq
      · refine ih ?_ hx
        unfold Location.Before at hpq ⊢
        split <;> dsimp only <;> omega

/-- No two characters of a text stand at the same place. -/
theorem nodup_places (p : Location) (cs : List Char) : ((locateFrom p cs).map Prod.snd).Nodup := by
  induction cs generalizing p with
  | nil => exact List.nodup_nil
  | cons c cs ih =>
      rw [locateFrom, List.map_cons, List.nodup_cons]
      refine ⟨fun hmem => ?_, ih _⟩
      obtain ⟨x, hx, hplace⟩ := List.mem_map.mp hmem
      have hnext : p.Before (if c = '\n' then ⟨p.line + 1, 0⟩ else ⟨p.line, p.column + 1⟩) := by
        unfold Location.Before
        split <;> dsimp only <;> omega
      have hbefore := before_of_mem_locateFrom hnext hx
      rw [show x.2 = p from hplace] at hbefore
      unfold Location.Before at hbefore
      omega

theorem map_fst_locateFrom (p : Location) (cs : List Char) : (locateFrom p cs).map Prod.fst = cs := by
  induction cs generalizing p with
  | nil => rfl
  | cons c cs ih => rw [locateFrom, List.map_cons, ih]

theorem textBefore_append {cs rest : Chars} (h : ((cs ++ rest).map Prod.snd).Nodup) :
    textBefore rest (cs ++ rest) = String.ofList (cs.map Prod.fst) := by
  cases rest with
  | nil => rw [textBefore, List.append_nil]
  | cons x rest =>
      obtain ⟨d, p⟩ := x
      have hcs : ∀ x ∈ cs, (x.2 != p) = true := by
        intro x hx
        rw [List.map_append, List.nodup_append] at h
        exact bne_iff_ne.mpr (h.2.2 _ (List.mem_map_of_mem hx) _ List.mem_cons_self)
      rw [textBefore, List.takeWhile_append_of_pos hcs, List.takeWhile_cons_of_neg (by simp), List.append_nil]

/-! ## Tokens without their places -/

inductive Symbol where
  | word (text : String)
  | sign (char : Char) (joint : Bool)
  | literal (text : String)
  | other
  deriving DecidableEq, Repr

def Tree.symbol : Tree → Symbol
  | .word text _ => .word text
  | .sign c joint _ => .sign c joint
  | .literal text _ => .literal text
  | .lifetime _ | .group .. => .other

/-- The tokens of a text, if it can be cut into tokens. -/
def symbols? (text : String) : Option (List Symbol) :=
  (lex (locate text.toList)).toOption.map (List.map Tree.symbol)

/-- The first token and what follows it. -/
def Yields (cs : Chars) (s : Symbol) (rest : Chars) : Prop :=
  rest.length < cs.length ∧ ∃ t : Tree, t.symbol = s ∧ ∀ fuel frames done,
    lexFrom (fuel + 2) frames done cs = lexFrom (fuel + 1) frames (t :: done) rest

inductive Cuts : Chars → List Symbol → Prop where
  | nil : Cuts [] []
  | cons {cs rest : Chars} {s : Symbol} {ss : List Symbol} (h : Yields cs s rest) (hrest : Cuts rest ss) :
      Cuts cs (s :: ss)

theorem Cuts.lexFrom_eq {cs : Chars} {ss : List Symbol} (h : Cuts cs ss) {fuel : Nat}
    (hfuel : cs.length < fuel) (done : List Tree) :
    ∃ trees, trees.map Tree.symbol = ss ∧ lexFrom (fuel + 1) [] done cs = .ok (done.reverse ++ trees) := by
  induction h generalizing fuel done with
  | nil =>
      refine ⟨[], rfl, ?_⟩
      rw [List.append_nil, lexFrom]
      cases fuel <;> rfl
  | cons h _ ih =>
      obtain ⟨hlength, t, rfl, hstep⟩ := h
      obtain ⟨fuel, rfl⟩ := Nat.exists_eq_add_one_of_ne_zero (Nat.ne_zero_of_lt hfuel)
      obtain ⟨trees, rfl, hrest⟩ := ih (by omega : _ < fuel) (t :: done)
      exact ⟨t :: trees, rfl, by rw [hstep, hrest, List.reverse_cons, List.append_assoc, List.singleton_append]⟩

/-- A text that is cut into these tokens wherever it stands. -/
def Lexes (text : List Char) (ss : List Symbol) : Prop :=
  ∀ cs : Chars, cs.map Prod.fst = text → (cs.map Prod.snd).Nodup → Cuts cs ss

theorem Lexes.symbols?_eq {text : String} {ss : List Symbol} (h : Lexes text.toList ss) :
    symbols? text = some ss := by
  have hcuts := h (locate text.toList) (map_fst_locateFrom _ _) (nodup_places _ _)
  obtain ⟨trees, rfl, htrees⟩ := hcuts.lexFrom_eq (Nat.lt_succ_self _) []
  rw [symbols?, lex, htrees]
  rfl

theorem lexes_nil : Lexes [] [] := by
  intro cs hcs _
  rw [List.map_eq_nil_iff.mp hcs]
  exact .nil

/-- A token begins with this character, and no comment or bracket. -/
structure Solid (c : Char) : Prop where
  slash : c ≠ '/'
  space : isSpace c = false
  opening : opening? c = none
  closing : closing? c = none

/-- The code points of blanks, brackets and the slash. -/
def hollowCodes : List Nat :=
  List.range' 0x9 5 ++ List.range' 0x2000 11 ++
    [0x20, 0x85, 0xA0, 0x1680, 0x200E, 0x200F, 0x2028, 0x2029, 0x202F, 0x205F, 0x3000] ++
    [0x28, 0x29, 0x2F, 0x5B, 0x5D, 0x7B, 0x7D]

theorem mem_hollowCodes_of_isSpace {c : Char} (hc : isSpace c = true) : c.toNat ∈ hollowCodes := by
  simp only [isSpace, isBlank, Bool.or_eq_true, Bool.and_eq_true, decide_eq_true_eq, beq_iff_eq, or_assoc] at hc
  have hspan {low n : Nat} (h : low ≤ c.toNat ∧ c.toNat ≤ low + n) : c.toNat ∈ List.range' low (n + 1) :=
    List.mem_range'_1.mpr ⟨h.1, by omega⟩
  rcases hc with h | h | h | h | h | h | h | h | h | h | h | rfl | rfl
  · exact List.mem_append_left _ (List.mem_append_left _ (List.mem_append_left _ (hspan h)))
  · rw [h]; decide
  · rw [h]; decide
  · rw [h]; decide
  · rw [h]; decide
  · exact List.mem_append_left _ (List.mem_append_left _ (List.mem_append_right _ (hspan h)))
  · rw [h]; decide
  · rw [h]; decide
  · rw [h]; decide
  · rw [h]; decide
  · rw [h]; decide
  · decide
  · decide

theorem solid_of_not_mem {c : Char} (hc : c.toNat ∉ hollowCodes) : Solid c := by
  have hne (d : Char) (hd : d.toNat ∈ hollowCodes) : c ≠ d := fun h => hc (h ▸ hd)
  refine ⟨hne _ (by decide), ?_, ?_, ?_⟩
  · exact Bool.eq_false_iff.mpr (mt mem_hollowCodes_of_isSpace hc)
  · rw [opening?, if_neg (hne _ (by decide)), if_neg (hne _ (by decide)), if_neg (hne _ (by decide))]
  · rw [closing?, if_neg (hne _ (by decide)), if_neg (hne _ (by decide)), if_neg (hne _ (by decide))]

theorem solid_of_class {P : Char → Bool} (hP : hollowCodes.all (fun n => !P (Char.ofNat n)) = true) {c : Char}
    (hc : P c = true) : Solid c := by
  refine solid_of_not_mem fun hmem => ?_
  have hfalse := List.all_eq_true.mp hP _ hmem
  rw [Char.ofNat_toNat, hc] at hfalse
  cases hfalse

theorem skipBlanks_solid {c : Char} (hc : Solid c) (fuel : Nat) (p : Location) (rest : Chars) :
    skipBlanks fuel ((c, p) :: rest) = (c, p) :: rest := by
  cases fuel with
  | zero => rfl
  | succ fuel => rw [skipBlanks, if_neg hc.slash, hc.space, if_neg Bool.false_ne_true]

theorem docComment?_solid {c : Char} (hc : Solid c) (p : Location) (rest : Chars) :
    docComment? ((c, p) :: rest) = none := by
  have hno (expected : List Char) : startsWith ('/' :: expected) ((c, p) :: rest) = false := by
    rw [startsWith, after?, if_neg (Ne.symm hc.slash)]
    rfl
  simp [docComment?, hno]

theorem lexFrom_leaf {c : Char} (hc : Solid c) {p : Location} {cs rest : Chars} {t : Tree}
    (ht : leaf? ((c, p) :: cs) p = some (t, rest)) (fuel : Nat) (frames : List Frame) (done : List Tree) :
    lexFrom (fuel + 1) frames done ((c, p) :: cs) = lexFrom fuel frames (t :: done) rest := by
  rw [lexFrom.eq_def]
  simp only [skipBlanks_solid hc, docComment?_solid hc, hc.opening, hc.closing, ht]

theorem lexFrom_blank {c : Char} (hc : Solid c) (p q : Location) (cs : Chars) (fuel : Nat) (frames : List Frame)
    (done : List Tree) :
    lexFrom (fuel + 2) frames done ((' ', p) :: (c, q) :: cs) = lexFrom (fuel + 2) frames done ((c, q) :: cs) := by
  have hskip : skipBlanks (fuel + 1) ((' ', p) :: (c, q) :: cs) = (c, q) :: cs := by
    rw [skipBlanks, if_neg (by decide), if_pos (by decide), skipBlanks_solid hc]
  unfold lexFrom
  simp only [hskip, skipBlanks_solid hc]

theorem yields_leaf {c : Char} (hc : Solid c) {p : Location} {cs rest : Chars} {t : Tree}
    (ht : leaf? ((c, p) :: cs) p = some (t, rest)) (hrest : rest.length ≤ cs.length) :
    Yields ((c, p) :: cs) t.symbol rest :=
  ⟨Nat.lt_succ_of_le hrest, t, rfl, fun fuel frames done => lexFrom_leaf hc ht (fuel + 1) frames done⟩

/-- The text begins with a token. -/
def Begins (text : List Char) : Prop :=
  ∃ c rest, text = c :: rest ∧ Solid c

theorem Begins.append {word : List Char} (h : Begins word) (text : List Char) : Begins (word ++ text) := by
  obtain ⟨c, rest, rfl, hc⟩ := h
  exact ⟨c, rest ++ text, rfl, hc⟩

theorem lexes_blank {text : List Char} (htext : Begins text) {ss : List Symbol} (h : Lexes text ss) :
    Lexes (' ' :: text) ss := by
  intro cs hcs hplaces
  obtain ⟨c, text, rfl, hc⟩ := htext
  obtain ⟨⟨_, p⟩, cs, rfl, rfl, htail⟩ := List.map_eq_cons_iff.mp hcs
  obtain ⟨⟨_, q⟩, cs, rfl, rfl, rfl⟩ := List.map_eq_cons_iff.mp htail
  rw [List.map_cons, List.nodup_cons] at hplaces
  cases h _ rfl hplaces.2 with
  | cons hyields hrest =>
      obtain ⟨hlength, t, ht, hstep⟩ := hyields
      refine .cons ⟨Nat.lt_succ_of_lt hlength, t, ht, fun fuel frames done => ?_⟩ hrest
      rw [lexFrom_blank hc, hstep]

end WireSchema.Grammar
