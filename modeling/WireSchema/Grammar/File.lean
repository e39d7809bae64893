import WireSchema.Grammar.Item
import WireSchema.Grammar.Lexer

/-!
Whole texts: a text is well formed if it can be cut into tokens and the tokens are inner attributes and items.
-/

namespace WireSchema.Grammar

open Recognizer

/-- Recognizes one rule with the help of all rules. -/
def recognize (rules : Rules) : Rule → Recognizer Kind
  | .item => do item rules; return .done
  | .implItem => do memberItem rules; return .done
  | .useTree root => do useTree rules root; return .done
  | .type plus => type rules plus
  | .arguments => do genericArguments rules; return .done
  | .pattern => do pattern rules; return .done
  | .expression braces => expression rules braces
  | .unary braces => unary rules braces
  | .operators left braces base => operatorsFrom rules left braces base
  | .statements => do statements rules; return .done
  | .earlyExpression => earlyExpression rules

/-- All rules, to a depth of `fuel`. -/
def rulesTo : Nat → Rules
  | 0, _ => fail
  | fuel + 1, r => recognize (rulesTo fuel) r

mutual

/-- The number of trees, those inside groups included. -/
def Tree.size : Tree → Nat
  | .group _ content _ _ => Trees.size content + 1
  | _ => 1

def Trees.size : List Tree → Nat
  | [] => 0
  | t :: ts => t.size + Trees.size ts

end

def file (rules : Rules) : Recognizer Unit := do
  innerAttributes rules
  untilEnd (rules.run .item)

/-- The text that is cut into tokens: a mark of byte order is passed over, and so is a first line that begins
with `#!` and no attribute. -/
def withoutPreface (cs : List Char) : List Char :=
  let cs := match cs with
    | '\ufeff' :: rest => rest
    | _ => cs
  match cs with
  | '#' :: '!' :: rest =>
    match skipBlanks (rest.length + 1) (locate rest) with
    | ('[', _) :: _ => cs
    | _ => cs.dropWhile (· != '\n')
  | _ => cs

/-- Where a text stops being well formed, if it does. -/
def fault? (text : String) : Option Location :=
  match lex (locate (withoutPreface text.toList)) with
  | .error p => some p
  | .ok trees =>
    match file (rulesTo (8 * Trees.size trees + 8)) ⟨trees, Location.start, none⟩ with
    | .error p => some p
    | .ok (_, c) => c.stray

end WireSchema.Grammar
