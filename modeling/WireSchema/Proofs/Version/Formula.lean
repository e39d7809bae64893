import WireSchema.Proofs.Grammar.Word
import WireSchema.Version.Condition

/-!
What the text of a test means in the generated language. The text is cut into tokens as source is, and the tokens are
read as an expression: comparisons of the variable with a number and the two constants, joined by `&&` and these by
`||`. The text of a condition is read as an expression that is true at just the versions where the condition holds, and
its negated text as one that is false there.
-/

namespace WireSchema.Version

open WireSchema.Text WireSchema.Grammar

inductive Relation where
  | less
  | greater
  | atMost
  | atLeast
  deriving DecidableEq, Repr

def Relation.holds : Relation → Int16 → Int16 → Bool
  | .less, a, b => a < b
  | .greater, a, b => b < a
  | .atMost, a, b => a ≤ b
  | .atLeast, a, b => b ≤ a

/-- An expression over one variable. -/
inductive Formula where
  | constant (value : Bool)
  | compare (relation : Relation) (bound : Int16)
  | both (left right : Formula)
  | either (left right : Formula)
  deriving DecidableEq, Repr

namespace Formula

/-- The value where the variable is `v`. -/
def eval (v : Int16) : Formula → Bool
  | .constant value => value
  | .compare relation bound => relation.holds v bound
  | .both left right => left.eval v && right.eval v
  | .either left right => left.eval v || right.eval v

/-! ## Reading -/

/-- A token of an expression; the signs of one operator are put together. -/
inductive Token where
  | name (text : String)
  | number (text : String)
  | operator (signs : List Char)
  | other
  deriving DecidableEq, Repr

def Token.ofSymbol : Symbol → Token
  | .word text => .name text
  | .literal text => .number text
  | .sign c _ => .operator [c]
  | .other => .other

/-- The operators of two signs. -/
def pairs : List (List Char) := [['<', '='], ['>', '='], ['&', '&'], ['|', '|']]

def tokens : List Symbol → List Token
  | [] => []
  | .sign a true :: .sign b joint :: rest =>
    if [a, b] ∈ pairs then .operator [a, b] :: tokens rest
    else .operator [a] :: tokens (.sign b joint :: rest)
  | s :: rest => .ofSymbol s :: tokens rest

def relation? : List Char → Option Relation
  | ['<'] => some .less
  | ['>'] => some .greater
  | ['<', '='] => some .atMost
  | ['>', '='] => some .atLeast
  | _ => none

/-- The number that decimal digits and a sign denote, if it fits in 16 bits. -/
def bound? (negative : Bool) (digits : String) : Option Int16 :=
  (Numeral.value? 10 digits.toList).bind fun n : Nat =>
    let n : Int := if negative then -n else n
    if -32768 ≤ n ∧ n ≤ 32767 then some (Int16.ofInt n) else none

def comparison? (var name : String) (signs : List Char) (negative : Bool) (digits : String) : Option Formula :=
  if name = var ∧ name ≠ "true" ∧ name ≠ "false" then
    (relation? signs).bind fun relation => (bound? negative digits).map (.compare relation)
  else none

def atom? (var : String) : List Token → Option Formula
  | [.name name] =>
    if name = "true" then some (.constant true)
    else if name = "false" then some (.constant false)
    else none
  | [.name name, .operator signs, .number digits] => comparison? var name signs false digits
  | [.name name, .operator signs, .operator ['-'], .number digits] => comparison? var name signs true digits
  | _ => none

/-- Operators of one kind are taken from left to right. -/
def join (operator : Formula → Formula → Formula) : List Formula → Option Formula
  | [] => none
  | f :: fs => some (fs.foldl operator f)

/-- The parts between the separators are read by themselves. -/
def chain? (separator : Token) (operator : Formula → Formula → Formula) (part? : List Token → Option Formula)
    (ts : List Token) : Option Formula :=
  ((ts.splitOn separator).mapM part?).bind (join operator)

def conjunction? (var : String) : List Token → Option Formula :=
  chain? (.operator ['&', '&']) .both (atom? var)

def disjunction? (var : String) : List Token → Option Formula :=
  chain? (.operator ['|', '|']) .either (conjunction? var)

/-- The expression over the variable `var` that a text is, if it is one. -/
def read? (var text : String) : Option Formula :=
  (symbols? text).bind fun ss => disjunction? var (tokens ss)

example : read? "v" "v<1||v>=2&&v<=-3" =
    some (.either (.compare .less 1) (.both (.compare .atLeast 2) (.compare .atMost (-3)))) := by
  decide +kernel

/-! ## Chains of two parts -/

section Chain

variable {separator : Token} {operator : Formula → Formula → Formula} {part? : List Token → Option Formula}
  {ts ts' : List Token} {f f' : Formula}

theorem chain?_single (hts : separator ∉ ts) (h : part? ts = some f) :
    chain? separator operator part? ts = some f := by
  simp [chain?, List.splitOn_eq_singleton hts, h, join]

theorem chain?_pair (hts : separator ∉ ts) (hts' : separator ∉ ts') (h : part? ts = some f)
    (h' : part? ts' = some f') : chain? separator operator part? (ts ++ separator :: ts') = some (operator f f') := by
  simp [chain?, List.splitOn_append_cons_self_of_not_mem hts, List.splitOn_eq_singleton hts', h, h', join]

end Chain

/-! ## Comparisons -/

def signs : Relation → List Char
  | .less => ['<']
  | .greater => ['>']
  | .atMost => ['<', '=']
  | .atLeast => ['>', '=']

theorem relation?_signs (r : Relation) : relation? (signs r) = some r := by
  cases r <;> rfl

theorem signs_ordinary (r : Relation) : ∀ c ∈ signs r, c ∈ ordinarySigns := by
  cases r <;> simp [signs, ordinarySigns]

/-- Blanks stand around the signs. -/
def comparisonText (var : String) (r : Relation) (bound : Int16) : List Char :=
  var.toList ++ ' ' :: (signs r ++ ' ' :: (Numeral.decimal bound.toInt).toList)

def comparisonSymbols (var : String) (r : Relation) (bound : Int16) : List Symbol :=
  .word var :: (signSymbols (signs r) ++ numberSymbols bound.toInt)

def comparisonTokens (var : String) (r : Relation) (bound : Int16) : List Token :=
  .name var :: .operator (signs r) ::
    (if bound.toInt < 0 then [.operator ['-']] else []) ++ [.number (Numeral.ofNat 10 bound.toInt.natAbs)]

theorem lexes_comparison {var : String} (hvar : IsName var.toList) (r : Relation) (bound : Int16) {text : List Char}
    (htext : Stops text) {ss : List Symbol} (h : Lexes text ss) :
    Lexes (comparisonText var r bound ++ text) (comparisonSymbols var r bound ++ ss) := by
  have hnumber := lexes_blank ((begins_decimal bound.toInt).append text) (lexes_decimal bound.toInt htext h)
  have hsigns := lexes_signs (signs_ordinary r) (stops_blank _).apart hnumber
  have hbegins := begins_signs (by cases r <;> decide) (signs_ordinary r)
  have hall := (isToken_name hvar).lexes (stops_blank _) (lexes_blank (hbegins.append _) hsigns)
  simpa [comparisonText, comparisonSymbols] using hall

theorem tokens_comparison (var : String) (r : Relation) (bound : Int16) (ss : List Symbol) :
    tokens (comparisonSymbols var r bound ++ ss) = comparisonTokens var r bound ++ tokens ss := by
  unfold comparisonSymbols numberSymbols comparisonTokens
  split <;> cases r <;> simp [tokens, signs, signSymbols, pairs, Token.ofSymbol]

/-! ## Connectives -/

/-- The sign that a connective has twice. -/
def connectives : List Char := ['&', '|']

section Connective

variable {c : Char} (hc : c ∈ connectives)
include hc

theorem connective_cases : c = '&' ∨ c = '|' := by
  simpa [connectives] using hc

theorem connective_ordinary : ∀ d ∈ [c, c], d ∈ ordinarySigns := by
  rcases connective_cases hc with rfl | rfl <;> simp [ordinarySigns]

theorem tokens_connective (ss : List Symbol) :
    tokens (signSymbols [c, c] ++ ss) = .operator [c, c] :: tokens ss := by
  rcases connective_cases hc with rfl | rfl <;> simp [signSymbols, tokens, pairs]

theorem connective_not_mem (var : String) (r : Relation) (bound : Int16) :
    Token.operator [c, c] ∉ comparisonTokens var r bound := by
  have hsigns : [c, c] ≠ signs r := by
    rcases connective_cases hc with rfl | rfl <;> cases r <;> decide
  unfold comparisonTokens
  split <;> simp [hsigns]

end Connective

theorem bound?_toInt (bound : Int16) :
    bound? (bound.toInt < 0) (Numeral.ofNat 10 bound.toInt.natAbs) = some bound := by
  have hvalue : Numeral.value? 10 (Numeral.ofNat 10 bound.toInt.natAbs).toList = some bound.toInt.natAbs := by
    rw [Numeral.ofNat, String.toList_ofList]
    exact Numeral.value?_digits (by decide) (by decide) _
  have hsigned : (if decide (bound.toInt < 0) = true then -(bound.toInt.natAbs : Int) else bound.toInt.natAbs) =
      bound.toInt := by
    simp only [decide_eq_true_eq]
    split <;> omega
  have hfits : -32768 ≤ bound.toInt ∧ bound.toInt ≤ 32767 := ⟨Int16.le_toInt bound, Int16.toInt_le bound⟩
  rw [bound?, hvalue, Option.bind_some]
  dsimp only
  rw [hsigned, if_pos hfits, Int16.ofInt_toInt]

theorem comparison?_toInt {var : String} (hvar : var ≠ "true" ∧ var ≠ "false") (r : Relation) (bound : Int16) :
    comparison? var var (signs r) (bound.toInt < 0) (Numeral.ofNat 10 bound.toInt.natAbs) =
      some (.compare r bound) := by
  rw [comparison?, if_pos ⟨rfl, hvar⟩, relation?_signs, Option.bind_some, bound?_toInt, Option.map_some]

theorem atom?_comparison {var : String} (hvar : var ≠ "true" ∧ var ≠ "false") (r : Relation) (bound : Int16) :
    atom? var (comparisonTokens var r bound) = some (.compare r bound) := by
  have hread := comparison?_toInt hvar r bound
  unfold comparisonTokens
  split
  · rename_i hneg
    rwa [decide_eq_true hneg] at hread
  · rename_i hpos
    rwa [decide_eq_false hpos] at hread

/-! ## The texts of conditions -/

/-- A name that can stand for a variable. Every identifier is one. -/
structure IsVariable (var : String) : Prop where
  name : IsName var.toList
  ne_constant : var ≠ "true" ∧ var ≠ "false"

theorem read?_true (var : String) : read? var "true" = some (.constant true) := by
  have hsymbols : symbols? "true" = some [.word "true"] := by decide +kernel
  rw [read?, hsymbols]
  rfl

theorem read?_false (var : String) : read? var "false" = some (.constant false) := by
  have hsymbols : symbols? "false" = some [.word "false"] := by decide +kernel
  rw [read?, hsymbols]
  rfl

section Variable

variable {var text : String} (hvar : IsVariable var) {r r' : Relation} {a b : Int16}
include hvar

theorem conjunction?_comparison (r : Relation) (a : Int16) :
    conjunction? var (comparisonTokens var r a) = some (.compare r a) :=
  chain?_single (connective_not_mem (by decide) var r a) (atom?_comparison hvar.ne_constant r a)

theorem read?_comparison (htext : text.toList = comparisonText var r a) : read? var text = some (.compare r a) := by
  have hlexes := lexes_comparison hvar.name r a stops_nil lexes_nil
  rw [List.append_nil, ← htext] at hlexes
  rw [read?, hlexes.symbols?_eq, Option.bind_some, tokens_comparison, tokens, List.append_nil]
  exact chain?_single (connective_not_mem (by decide) var r a) (conjunction?_comparison hvar r a)

/-- Two comparisons with a connective between them. -/
theorem read?_pair {c : Char} (hc : c ∈ connectives)
    (htext : text.toList = comparisonText var r a ++ ' ' :: c :: c :: ' ' :: comparisonText var r' b) :
    read? var text =
      disjunction? var (comparisonTokens var r a ++ .operator [c, c] :: comparisonTokens var r' b) := by
  have hsigns := connective_ordinary hc
  have hright := lexes_comparison hvar.name r' b stops_nil lexes_nil
  rw [List.append_nil] at hright
  have hbegins : Begins (comparisonText var r' b) := (begins_name hvar.name).append _
  have hconnective := lexes_signs hsigns (stops_blank _).apart (lexes_blank hbegins hright)
  have hboth := lexes_comparison hvar.name r a (stops_blank _)
    (lexes_blank ((begins_signs (List.cons_ne_nil c [c]) hsigns).append _) hconnective)
  rw [List.cons_append, List.cons_append, List.nil_append, ← htext] at hboth
  rw [read?, hboth.symbols?_eq, Option.bind_some, tokens_comparison, tokens_connective hc, tokens_comparison, tokens,
    List.append_nil]

theorem read?_both
    (htext : text.toList = comparisonText var r a ++ ' ' :: '&' :: '&' :: ' ' :: comparisonText var r' b) :
    read? var text = some (.both (.compare r a) (.compare r' b)) := by
  have hand := connective_not_mem (by decide : '&' ∈ connectives) var
  have hor := connective_not_mem (by decide : '|' ∈ connectives) var
  rw [read?_pair hvar (by decide) htext]
  -- The outer chain has one part, and the inner one cuts it in two.
  refine chain?_single ?_ ?_
  · simp [hor r a, hor r' b]
  · exact chain?_pair (hand r a) (hand r' b) (atom?_comparison hvar.ne_constant r a)
      (atom?_comparison hvar.ne_constant r' b)

theorem read?_either
    (htext : text.toList = comparisonText var r a ++ ' ' :: '|' :: '|' :: ' ' :: comparisonText var r' b) :
    read? var text = some (.either (.compare r a) (.compare r' b)) := by
  have hor := connective_not_mem (by decide : '|' ∈ connectives) var
  rw [read?_pair hvar (by decide) htext]
  exact chain?_pair (hor r a) (hor r' b) (conjunction?_comparison hvar r a) (conjunction?_comparison hvar r' b)

end Variable

end Formula

namespace Condition

def formula : Condition → Formula
  | .always => .constant true
  | .never => .constant false
  | .atLeast min => .compare .atLeast min
  | .atMost max => .compare .atMost max
  | .between min max => .both (.compare .atLeast min) (.compare .atMost max)

def negatedFormula : Condition → Formula
  | .always => .constant false
  | .never => .constant true
  | .atLeast min => .compare .less min
  | .atMost max => .compare .greater max
  | .between min max => .either (.compare .less min) (.compare .greater max)

theorem eval_formula (c : Condition) (v : Int16) : c.formula.eval v = c.holds v := by
  cases c <;> rfl

theorem eval_negatedFormula (c : Condition) (v : Int16) : c.negatedFormula.eval v = !c.holds v := by
  have hless (min : Int16) : decide (v < min) = !decide (min ≤ v) := by
    rw [← decide_not, decide_eq_decide, Int16.not_le]
  have hgreater (max : Int16) : decide (max < v) = !decide (v ≤ max) := by
    rw [← decide_not, decide_eq_decide, Int16.not_le]
  cases c with
  | always => rfl
  | never => rfl
  | atLeast min => exact hless min
  | atMost max => exact hgreater max
  | between min max =>
      show (decide (v < min) || decide (max < v)) = !(decide (min ≤ v) && decide (v ≤ max))
      rw [hless, hgreater, Bool.not_and]

theorem read?_render {var : String} (hvar : Formula.IsVariable var) (c : Condition) :
    Formula.read? var (c.render var) = some c.formula := by
  cases c with
  | always => exact Formula.read?_true var
  | never => exact Formula.read?_false var
  | atLeast min =>
      refine Formula.read?_comparison hvar ?_
      simp [render, Formula.comparisonText, Formula.signs]
  | atMost max =>
      refine Formula.read?_comparison hvar ?_
      simp [render, Formula.comparisonText, Formula.signs]
  | between min max =>
      refine Formula.read?_both hvar ?_
      simp [render, Formula.comparisonText, Formula.signs]

theorem read?_renderNegated {var : String} (hvar : Formula.IsVariable var) (c : Condition) :
    Formula.read? var (c.renderNegated var) = some c.negatedFormula := by
  cases c with
  | always => exact Formula.read?_false var
  | never => exact Formula.read?_true var
  | atLeast min =>
      refine Formula.read?_comparison hvar ?_
      simp [renderNegated, Formula.comparisonText, Formula.signs]
  | atMost max =>
      refine Formula.read?_comparison hvar ?_
      simp [renderNegated, Formula.comparisonText, Formula.signs]
  | between min max =>
      refine Formula.read?_either hvar ?_
      simp [renderNegated, Formula.comparisonText, Formula.signs]

/-- The text of a condition, read as an expression of the generated language over its variable, has at every version
the value of the condition, and its negated text the opposite value. -/
theorem render_reads_as_holds {var : String} (hvar : Formula.IsVariable var) (c : Condition) :
    ∃ f g, Formula.read? var (c.render var) = some f ∧ Formula.read? var (c.renderNegated var) = some g ∧
      ∀ v, f.eval v = c.holds v ∧ g.eval v = !c.holds v :=
  ⟨c.formula, c.negatedFormula, read?_render hvar c, read?_renderNegated hvar c,
    fun v => ⟨eval_formula c v, eval_negatedFormula c v⟩⟩

/-- A raw name, and a range that ends before it begins. -/
theorem render_reads_as_holds_inverted :
    Formula.IsVariable "r#type" ∧
      (Condition.between 32767 (-32768)).renderNegated "r#type" = "r#type < 32767 || r#type > -32768" ∧
      ∃ g, Formula.read? "r#type" "r#type < 32767 || r#type > -32768" = some g ∧
        ∀ v, g.eval v = !(Condition.between 32767 (-32768)).holds v := by
  have hrest : ['y', 'p', 'e'].all isIdentifierRest = true := by decide
  have hname : IsPlainName "type".toList :=
    ⟨'t', ['y', 'p', 'e'], rfl, by decide, List.all_eq_true.mp hrest⟩
  have hvar : Formula.IsVariable "r#type" := ⟨.raw hname (by decide), by decide⟩
  have hnegated : (Condition.between 32767 (-32768)).renderNegated "r#type" =
      "r#type < 32767 || r#type > -32768" := by decide +kernel
  obtain ⟨f, g, -, hread, heval⟩ := render_reads_as_holds hvar (.between 32767 (-32768))
  exact ⟨hvar, hnegated, g, hnegated ▸ hread, fun v => (heval v).2⟩

end Condition

end WireSchema.Version
