import Stencil.Bundled.Template.Tree

/-!
# Stencil.Bundled.Template.Fold

What is known of an expression before it is evaluated.

* `Expr.constant?` — its value, if it is made from literals by signs, comparison and logic alone,
  with the line on which it begins.
* `Expr.line`      — the line on which its evaluation ends. Faults are told with the line of the
  work done last before them.

Constants are not taken apart any more: the line of one is the line of its first token.
-/

namespace Stencil.Bundled.Template

/-- A literal, without any work on it. -/
def Expr.isLiteral : Expr → Bool
  | .const _ _ => true
  | _ => false

mutual

/-- Between constants `and` gives the right one or false, and `or` the first true one or false. -/
def Expr.constant? : Expr → Option (Value × Nat)
  | .const v line => some (v, line)
  | .negative e line => do
    let (v, _) ← e.constant?
    (v.negative?).map (·, line)
  | .not e line => e.constant?.map fun (v, _) => (.boolean !v.isTrue, line)
  | .and a b => do
    let (v, line) ← a.constant?
    let (w, _) ← b.constant?
    some (if v.isTrue && w.isTrue then w else .boolean false, line)
  | .or a b => do
    let (v, line) ← a.constant?
    let (w, _) ← b.constant?
    some (if v.isTrue then v else if w.isTrue then w else .boolean false, line)
  | .compare e links => do
    let (v, line) ← e.constant?
    (links.constant? v).map fun b => (.boolean b, line)
  | .join a b => do
    let (v, line) ← a.constant?
    let (w, _) ← b.constant?
    some (.text (v.written ++ w.written), line)
  | _ => none

/-- Whether all comparisons behind a value hold, if every part is constant. -/
def Links.constant? (v : Value) : Links → Option Bool
  | .done => some true
  | .equal e rest => do
    let (w, _) ← e.constant?
    (rest.constant? w).map (v.same w && ·)
  | .differs e rest => do
    let (w, _) ← e.constant?
    (rest.constant? w).map (!v.same w && ·)

end

/-- Named arguments that are all literals are put together beforehand. -/
def Args.areFixed : Args → Bool
  | .done => true
  | .value _ rest => rest.areFixed
  | .named _ e rest => e.isLiteral && rest.areFixed

mutual

def Expr.line (e : Expr) : Nat :=
  match e.constant? with
  | some (_, line) => line
  | none =>
    match e with
    | .const _ line | .var _ line => line
    | .attr e _ | .negative e _ | .not e _ | .choice _ e => e.line
    | .item _ e | .and _ e | .or _ e | .join _ e | .choiceElse _ _ e => e.line
    | .compare e links => links.lineFrom e.line
    | .filter _ e args | .test _ e args | .method e _ args | .apply e args =>
      args.lineFrom args.areFixed e.line
    | .call _ args line => args.lineFrom args.areFixed line

def Links.lineFrom (line : Nat) : Links → Nat
  | .done => line
  | .equal e rest | .differs e rest => rest.lineFrom e.line

def Args.lineFrom (areFixed : Bool) (line : Nat) : Args → Nat
  | .done => line
  | .value e rest => rest.lineFrom areFixed e.line
  | .named _ e rest => rest.lineFrom areFixed (if areFixed then line else e.line)

end

end Stencil.Bundled.Template
