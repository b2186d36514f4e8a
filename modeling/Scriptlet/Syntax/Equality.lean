import Scriptlet.Syntax

/-!
# Equality of trees

Trees hold lists of trees, for which no decision procedure is derived. It is written out here, node
by node, and `LawfulBEq` says that it decides equality. Positions count like everything else.
-/

namespace Scriptlet

mutual

/-- Whether two expressions are the same. -/
def Expr.same : Expr → Expr → Bool
  | .var v, .var w => v == w
  | .literal a p, .literal b q => a == b && p == q
  | .binary l o r p, .binary l' o' r' p' => l.same l' && o == o' && r.same r' && p == p'
  | .list es p, .list fs q => sameExprs es fs && p == q
  | .block b, .block c => b.same c
  | .call c, .call d => c.same d
  | .field e m p, .field f n q => e.same f && m.same n && p == q
  | _, _ => false

/-- Whether two lists of expressions are the same. -/
def sameExprs : List Expr → List Expr → Bool
  | [], [] => true
  | e :: es, f :: fs => e.same f && sameExprs es fs
  | _, _ => false

def Member.same : Member → Member → Bool
  | .name v, .name w => v == w
  | .call c, .call d => c.same d
  | .index e, .index f => e.same f
  | _, _ => false

def Call.same : Call → Call → Bool
  | ⟨m, es, p⟩, ⟨n, fs, q⟩ => m == n && sameExprs es fs && p == q

/-- Whether two statements are the same. -/
def Statement.same : Statement → Statement → Bool
  | .assign t v p, .assign t' v' p' => t.same t' && v.same v' && p == p'
  | .function f, .function g => f.same g
  | .conditional c b none p, .conditional c' b' none p' => c.same c' && b.same b' && p == p'
  | .conditional c b (some o) p, .conditional c' b' (some o') p' =>
    c.same c' && b.same b' && o.same o' && p == p'
  | .loop i v e b p, .loop i' v' e' b' p' =>
    i == i' && v == v' && e.same e' && b.same b' && p == p'
  | .exit none p, .exit none q => p == q
  | .exit (some e) p, .exit (some f) q => e.same f && p == q
  | .stop p, .stop q => p == q
  | .skip p, .skip q => p == q
  | .expression e, .expression f => e.same f
  | .newLine p, .newLine q => p == q
  | .comment c, .comment d => c == d
  | _, _ => false

/-- Whether two lists of statements are the same. -/
def sameStatements : List Statement → List Statement → Bool
  | [], [] => true
  | s :: ss, t :: ts => s.same t && sameStatements ss ts
  | _, _ => false

def Block.same : Block → Block → Bool
  | ⟨ss, p⟩, ⟨ts, q⟩ => sameStatements ss ts && p == q

/-- Whether two function definitions are the same. -/
def Function.same : Function → Function → Bool
  | ⟨m, ps, b, p⟩, ⟨n, qs, c, q⟩ => m == n && ps == qs && b.same c && p == q

end

instance : BEq Expr := ⟨Expr.same⟩
instance : BEq Statement := ⟨Statement.same⟩
instance : BEq Block := ⟨Block.same⟩
instance : BEq Function := ⟨Function.same⟩

mutual

theorem Expr.same_iff : ∀ e f : Expr, e.same f = true ↔ e = f
  | .var _, f => by cases f <;> simp [Expr.same]
  | .literal _ _, f => by cases f <;> simp [Expr.same]
  | .binary l _ r _, f => by
    cases f <;> simp [Expr.same, l.same_iff, r.same_iff, and_assoc]
  | .list es _, f => by cases f <;> simp [Expr.same, sameExprs_iff es]
  | .block b, f => by cases f <;> simp [Expr.same, b.same_iff]
  | .call c, f => by cases f <;> simp [Expr.same, c.same_iff]
  | .field e m _, f => by cases f <;> simp [Expr.same, e.same_iff, m.same_iff, and_assoc]

theorem sameExprs_iff : ∀ es fs : List Expr, sameExprs es fs = true ↔ es = fs
  | [], fs => by cases fs <;> simp [sameExprs]
  | e :: es, fs => by cases fs <;> simp [sameExprs, e.same_iff, sameExprs_iff es]

theorem Member.same_iff : ∀ m n : Member, m.same n = true ↔ m = n
  | .name _, n => by cases n <;> simp [Member.same]
  | .call c, n => by cases n <;> simp [Member.same, c.same_iff]
  | .index e, n => by cases n <;> simp [Member.same, e.same_iff]

theorem Call.same_iff : ∀ c d : Call, c.same d = true ↔ c = d
  | ⟨_, es, _⟩, ⟨_, _, _⟩ => by simp [Call.same, sameExprs_iff es, and_assoc]

theorem Statement.same_iff : ∀ s t : Statement, s.same t = true ↔ s = t
  | .assign e v _, t => by
    cases t <;> simp [Statement.same, e.same_iff, v.same_iff, and_assoc]
  | .function f, t => by cases t <;> simp [Statement.same, f.same_iff]
  | .conditional c b none _, t => by
    cases t with
    | conditional c' b' o' p' =>
      cases o' <;> simp [Statement.same, c.same_iff, b.same_iff, and_assoc]
    | _ => simp [Statement.same]
  | .conditional c b (some o) _, t => by
    cases t with
    | conditional c' b' o' p' =>
      cases o' <;> simp [Statement.same, c.same_iff, b.same_iff, o.same_iff, and_assoc]
    | _ => simp [Statement.same]
  | .loop _ _ e b _, t => by
    cases t <;> simp [Statement.same, e.same_iff, b.same_iff, and_assoc]
  | .exit none _, t => by
    cases t with
    | exit v q => cases v <;> simp [Statement.same]
    | _ => simp [Statement.same]
  | .exit (some e) _, t => by
    cases t with
    | exit v q => cases v <;> simp [Statement.same, e.same_iff]
    | _ => simp [Statement.same]
  | .stop _, t => by cases t <;> simp [Statement.same]
  | .skip _, t => by cases t <;> simp [Statement.same]
  | .expression e, t => by cases t <;> simp [Statement.same, e.same_iff]
  | .newLine _, t => by cases t <;> simp [Statement.same]
  | .comment _, t => by cases t <;> simp [Statement.same]

theorem sameStatements_iff : ∀ ss ts : List Statement, sameStatements ss ts = true ↔ ss = ts
  | [], ts => by cases ts <;> simp [sameStatements]
  | s :: ss, ts => by cases ts <;> simp [sameStatements, s.same_iff, sameStatements_iff ss]

theorem Block.same_iff : ∀ b c : Block, b.same c = true ↔ b = c
  | ⟨ss, _⟩, ⟨_, _⟩ => by simp [Block.same, sameStatements_iff ss]

theorem Function.same_iff : ∀ f g : Function, f.same g = true ↔ f = g
  | ⟨_, _, b, _⟩, ⟨_, _, _, _⟩ => by simp [Function.same, b.same_iff, and_assoc]

end

instance : LawfulBEq Expr where
  rfl := (Expr.same_iff _ _).2 rfl
  eq_of_beq h := (Expr.same_iff _ _).1 h

instance : LawfulBEq Statement where
  rfl := (Statement.same_iff _ _).2 rfl
  eq_of_beq h := (Statement.same_iff _ _).1 h

instance : LawfulBEq Block where
  rfl := (Block.same_iff _ _).2 rfl
  eq_of_beq h := (Block.same_iff _ _).1 h

instance : LawfulBEq Function where
  rfl := (Function.same_iff _ _).2 rfl
  eq_of_beq h := (Function.same_iff _ _).1 h

end Scriptlet
