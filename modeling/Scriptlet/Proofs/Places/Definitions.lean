import Scriptlet.Proofs.Rendering.RoundTrip
import Scriptlet.Proofs.Token.Tiling

/-!
# The function definitions of a program

The functions that are defined in a tree, in the order of the text (`Expr.functions` and its
companions). Erasing positions does not change which they are, up to positions. In a program that
was read, no two of them stand at the same place (`nodup_functions_of_parse`): each stands at the
place of the token that is its name, and the tokens of a source lie one behind the other.
-/

namespace Scriptlet

mutual

/-- The functions that are defined in an expression. -/
def Expr.functions : Expr → List Function
  | .var _ => []
  | .literal _ _ => []
  | .binary left _ right _ => left.functions ++ right.functions
  | .list values _ => functionsOfAll values
  | .block b => b.functions
  | .call c => c.functions
  | .field object member _ => object.functions ++ member.functions

/-- The functions that are defined in some of the expressions. -/
def functionsOfAll : List Expr → List Function
  | [] => []
  | e :: es => e.functions ++ functionsOfAll es

def Member.functions : Member → List Function
  | .name _ => []
  | .call c => c.functions
  | .index key => key.functions

def Call.functions : Call → List Function
  | ⟨_, arguments, _⟩ => functionsOfAll arguments

/-- The functions that are defined in a statement. -/
def Statement.functions : Statement → List Function
  | .assign target value _ => target.functions ++ value.functions
  | .function f => f.functions
  | .conditional condition body none _ => condition.functions ++ body.functions
  | .conditional condition body (some otherwise) _ =>
    condition.functions ++ (body.functions ++ otherwise.functions)
  | .loop _ _ iterable body _ => iterable.functions ++ body.functions
  | .exit none _ => []
  | .exit (some value) _ => value.functions
  | .stop _ => []
  | .skip _ => []
  | .expression e => e.functions
  | .newLine _ => []
  | .comment _ => []

/-- The functions that are defined in some of the statements. -/
def functionsOfStatements : List Statement → List Function
  | [] => []
  | s :: ss => s.functions ++ functionsOfStatements ss

def Block.functions : Block → List Function
  | ⟨statements, _⟩ => functionsOfStatements statements

/-- The function itself and those that are defined in its body. -/
def Function.functions : Function → List Function
  | ⟨name, parameters, body, position⟩ => ⟨name, parameters, body, position⟩ :: body.functions

end

theorem Function.functions_eq (f : Function) : f.functions = f :: f.body.functions := by
  obtain ⟨name, parameters, body, position⟩ := f
  rw [Function.functions]

/-! ## Erasing positions -/

mutual

theorem Expr.functions_erase : ∀ e : Expr, e.erase.functions = e.functions.map Function.erase
  | .var _ | .literal _ _ => by simp [Expr.erase, Expr.functions]
  | .binary left _ right _ => by
    simp [Expr.erase, Expr.functions, left.functions_erase, right.functions_erase]
  | .list values _ => by simp [Expr.erase, Expr.functions, functionsOfAll_erase values]
  | .block b => by simp [Expr.erase, Expr.functions, b.functions_erase]
  | .call c => by simp [Expr.erase, Expr.functions, c.functions_erase]
  | .field object member _ => by
    simp [Expr.erase, Expr.functions, object.functions_erase, member.functions_erase]

theorem functionsOfAll_erase :
    ∀ es : List Expr, functionsOfAll (eraseExprs es) = (functionsOfAll es).map Function.erase
  | [] => by simp [eraseExprs, functionsOfAll]
  | e :: es => by simp [eraseExprs, functionsOfAll, e.functions_erase, functionsOfAll_erase es]

theorem Member.functions_erase :
    ∀ m : Member, m.erase.functions = m.functions.map Function.erase
  | .name _ => by simp [Member.erase, Member.functions]
  | .call c => by simp [Member.erase, Member.functions, c.functions_erase]
  | .index key => by simp [Member.erase, Member.functions, key.functions_erase]

theorem Call.functions_erase : ∀ c : Call, c.erase.functions = c.functions.map Function.erase
  | ⟨_, arguments, _⟩ => by simp [Call.erase, Call.functions, functionsOfAll_erase arguments]

theorem Statement.functions_erase :
    ∀ s : Statement, s.erase.functions = s.functions.map Function.erase
  | .assign target value _ => by
    simp [Statement.erase, Statement.functions, target.functions_erase, value.functions_erase]
  | .function f => by simp [Statement.erase, Statement.functions, f.functions_erase]
  | .conditional condition body none _ => by
    simp [Statement.erase, Statement.functions, condition.functions_erase, body.functions_erase]
  | .conditional condition body (some otherwise) _ => by
    simp [Statement.erase, Statement.functions, condition.functions_erase, body.functions_erase,
      otherwise.functions_erase]
  | .loop _ _ iterable body _ => by
    simp [Statement.erase, Statement.functions, iterable.functions_erase, body.functions_erase]
  | .exit (some value) _ => by simp [Statement.erase, Statement.functions, value.functions_erase]
  | .expression e => by simp [Statement.erase, Statement.functions, e.functions_erase]
  | .exit none _ | .stop _ | .skip _ | .newLine _ | .comment _ => by
    simp [Statement.erase, Statement.functions]

theorem functionsOfStatements_erase :
    ∀ ss : List Statement,
      functionsOfStatements (eraseStatements ss) = (functionsOfStatements ss).map Function.erase
  | [] => by simp [eraseStatements, functionsOfStatements]
  | s :: ss => by
    simp [eraseStatements, functionsOfStatements, s.functions_erase, functionsOfStatements_erase ss]

theorem Block.functions_erase : ∀ b : Block, b.erase.functions = b.functions.map Function.erase
  | ⟨statements, _⟩ => by
    simp [Block.erase, Block.functions, functionsOfStatements_erase statements]

theorem Function.functions_erase :
    ∀ f : Function, f.erase.functions = f.functions.map Function.erase
  | ⟨_, _, body, _⟩ => by simp [Function.erase, Function.functions, body.functions_erase]

end

/-! ## No two at the same place -/

namespace Grammar

/-- The functions that are defined in what is spelled. -/
def Phrase.functions : Phrase → List Function
  | .tier _ e | .members e | .primary e => e.functions
  | .arguments es => functionsOfAll es
  | .call c => c.functions
  | .block b | .branch b => b.functions
  | .statements ss => functionsOfStatements ss
  | .statement s | .conditional s => s.functions

/-- The places of the functions that are defined in a phrase are places of tokens that spell it, in
the same order. -/
theorem Derives.functions_sublist {phrase : Phrase} {ts : List Token} (h : Derives phrase ts) :
    (phrase.functions.map (·.position)).Sublist (ts.map (·.position)) := by
  induction h with
  | operand _ ih | members _ ih | primary _ ih | branchBlock _ ih | conditional _ ih => exact ih
  | called _ ih | mapping _ ih | expression _ ih =>
    simpa only [Phrase.functions, Expr.functions, Statement.functions] using ih
  | integer _ _ | string _ | trueWord _ | falseWord _ | var _ | noArguments _ | noStatements
  | exit _ | stop _ | skip _ =>
    simp [Phrase.functions, Expr.functions, Statement.functions, functionsOfAll,
      functionsOfStatements]
  | minus _ _ ih | not _ _ ih =>
    simp only [Phrase.functions, Expr.functions, List.nil_append, List.append_nil, List.map_cons]
    exact ih.cons _
  | binary _ _ _ ih ih' | memberCall _ _ _ ih ih' | assign _ _ _ _ ih ih' =>
    simp only [Phrase.functions, Expr.functions, Member.functions, Statement.functions,
      List.map_append, List.map_cons]
    exact ih.append (ih'.cons _)
  | memberName _ _ _ ih =>
    simp only [Phrase.functions, Expr.functions, Member.functions, List.append_nil,
      List.map_append]
    exact List.sublist_append_of_sublist_left ih
  | memberIndex _ _ _ _ _ _ ih ih' =>
    simp only [Phrase.functions, Expr.functions, Member.functions, List.map_append, List.map_cons]
    exact ih.append (.cons _ (List.sublist_append_of_sublist_left
      (List.sublist_append_of_sublist_left (List.sublist_append_of_sublist_right ih'))))
  | parenthesized _ _ _ _ _ ih =>
    simp only [List.map_append, List.map_cons]
    exact .cons _ (List.sublist_append_of_sublist_left
      (List.sublist_append_of_sublist_left (List.sublist_append_of_sublist_right ih)))
  | list _ _ _ ih | block _ _ _ ih =>
    simp only [Phrase.functions, Expr.functions, Block.functions, List.map_append, List.map_cons]
    exact .cons _ (List.sublist_append_of_sublist_left ih)
  | lastArgument _ _ _ ih =>
    simp only [Phrase.functions, functionsOfAll, List.append_nil, List.map_append]
    exact List.sublist_append_of_sublist_left (List.sublist_append_of_sublist_right ih)
  | moreArguments _ _ _ _ _ _ ih ih' =>
    simp only [Phrase.functions, functionsOfAll, List.map_append, List.map_cons]
    exact (List.sublist_append_of_sublist_left (List.sublist_append_of_sublist_right ih)).append
      (ih'.cons _)
  | call _ _ _ _ ih =>
    simp only [Phrase.functions, Call.functions, List.map_append, List.map_cons]
    exact .cons _ (.cons _ (List.sublist_append_of_sublist_left ih))
  | newLine _ _ ih | comment _ _ ih =>
    simp only [Phrase.functions, functionsOfStatements, Statement.functions, List.nil_append,
      List.map_cons]
    exact ih.cons _
  | next _ _ _ ih ih' =>
    simp only [Phrase.functions, functionsOfStatements, List.map_append]
    exact ih.append ih'
  | ifThen _ _ _ ih ih' =>
    simp only [Phrase.functions, Statement.functions, List.map_append, List.map_cons]
    exact .cons _ (ih.append ih')
  | ifThenElse _ _ _ _ _ ih ih' ih'' =>
    simp only [Phrase.functions, Statement.functions, List.map_append, List.map_cons,
      ← List.append_assoc]
    exact .cons _ ((ih.append ih').append (ih''.cons _))
  | branchIf _ ih =>
    simpa only [Phrase.functions, Block.functions, functionsOfStatements, List.append_nil] using ih
  | loop _ _ _ _ _ ih ih' =>
    simp only [Phrase.functions, Statement.functions, List.map_append, List.map_cons]
    exact .cons _ (.cons _ (.cons _ (ih.append ih')))
  | indexedLoop _ _ _ _ _ _ _ ih ih' =>
    simp only [Phrase.functions, Statement.functions, List.map_append, List.map_cons]
    exact .cons _ (.cons _ (.cons _ (.cons _ (.cons _ (ih.append ih')))))
  | exitWith _ _ ih =>
    simp only [Phrase.functions, Statement.functions, List.map_cons]
    exact ih.cons _
  -- The first token of a definition is its name, and is taken by the function itself.
  | definition _ _ _ _ _ ih =>
    simp only [Phrase.functions, Statement.functions, Function.functions, List.map_append,
      List.map_cons]
    exact .cons_cons _ (.cons _ (List.sublist_append_of_sublist_right (ih.cons _)))

end Grammar

/-- No two functions of a program that was read stand at the same place. -/
theorem nodup_functions_of_parse {source : String} {program : Program}
    (h : parse source = .ok program) :
    ((functionsOfStatements program).map (·.position)).Nodup := by
  obtain ⟨ts, rest, hscan, hts⟩ := scan_of_parse h
  have hnodup := Cursor.nodup_positions_of_scan hscan
  rw [List.map_append] at hnodup
  exact (hts.functions_sublist.trans (List.sublist_append_left _ _)).nodup hnodup

end Scriptlet
