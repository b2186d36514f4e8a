import Scriptlet.Shell.Octets

/-!
# Patterns of the shell

A question mark stands for any character, an asterisk for any text, and brackets stand for one of
the characters in them. What is quoted stands for itself.
-/

namespace Scriptlet.Shell

/-- A character of a pattern before it is read, and whether it is quoted. -/
abbrev Mark := Char × Bool

/-- What brackets can hold. -/
inductive Member where
  | range (first last : Char)
  | named (p : Char → Bool)

/-- A part of a pattern. -/
inductive Glob where
  | char (c : Char)
  | any
  | many
  | set (isComplement : Bool) (members : List Member)

namespace Member

def classes : List (String × (Char → Bool)) :=
  [("alnum", Char.isAlphanum), ("alpha", Char.isAlpha), ("blank", fun c => c = ' ' || c = '\t'),
   ("cntrl", fun c => c < ' ' || c = '\x7f'), ("digit", Char.isDigit),
   ("graph", fun c => '!' ≤ c && c ≤ '~'), ("lower", Char.isLower), ("print", isPrint),
   ("punct", isSign), ("space", isSpace), ("upper", Char.isUpper),
   ("xdigit", fun c => c.isDigit || ('a' ≤ c && c ≤ 'f') || ('A' ≤ c && c ≤ 'F'))]

/-- Whether a character is among those that a member stands for. -/
def holds (c : Char) : Member → Bool
  | range first last => first ≤ c && c ≤ last
  | named p => p c

/-- The class whose name stands at the start, behind an opening bracket, and what is behind it. -/
def class? (marks : List Mark) : Option ((Char → Bool) × List Mark) :=
  classes.findSome? fun (name, p) =>
    let spelling := (":" ++ name ++ ":]").toList
    if marks.take spelling.length = spelling.map (·, false) then
      some (p, marks.drop spelling.length)
    else none

/-- The character at the start, which a backslash may precede, and what is behind it. -/
def taken? : List Mark → Option (Char × List Mark)
  | ('\\', false) :: (c, _) :: rest => some (c, rest)
  | (c, _) :: rest => some (c, rest)
  | [] => none

end Member

/-- The members of brackets and what is behind the closing one, if there is one. A closing bracket
at the start is a member. The number bounds how many members there are. -/
def readMembers (isFirst : Bool) : Nat → List Mark → Option (List Member × List Mark)
  | 0, _ => none
  | _, [] => none
  | n + 1, m :: marks =>
    if m = (']', false) && !isFirst then some ([], marks)
    else
      let ((member, rest) : Member × List Mark) :=
        match if m = ('[', false) then Member.class? marks else none with
        | some (p, rest) => (.named p, rest)
        | none =>
          match Member.taken? (m :: marks) with
          | none => (.range m.1 m.1, marks)
          | some (first, ('-', false) :: rest) =>
            match rest with
            | [] => (.range first first, ('-', false) :: rest)
            | (']', false) :: _ => (.range first first, ('-', false) :: rest)
            | rest =>
              match Member.taken? rest with
              | some (last, rest) => (.range first last, rest)
              | none => (.range first first, rest)
          | some (first, rest) => (.range first first, rest)
      (readMembers false n rest).map fun (members, rest) => (member :: members, rest)

/-- The pattern that marks make up. Brackets that are not closed stand for themselves. The number
bounds how many parts there are. -/
def readGlob : Nat → List Mark → List Glob
  | 0, _ => []
  | _, [] => []
  | n + 1, (c, isQuoted) :: rest =>
    if isQuoted then .char c :: readGlob n rest
    else
      match c, rest with
      | '?', rest => .any :: readGlob n rest
      | '*', rest => .many :: readGlob n rest
      | '\\', (d, _) :: rest => .char d :: readGlob n rest
      | '[', rest =>
        let (isComplement, inside) := match rest with
          | ('!', false) :: inside => (true, inside)
          | inside => (false, inside)
        match readMembers true inside.length inside with
        | some (members, rest) => .set isComplement members :: readGlob n rest
        | none => .char '[' :: readGlob n rest
      | c, rest => .char c :: readGlob n rest

namespace Glob

def ofMarks (marks : List Mark) : List Glob :=
  readGlob marks.length marks

def isWild : Glob → Bool
  | char _ => false
  | _ => true

def ends {α : Type} : List α → List (List α)
  | [] => [[]]
  | a :: rest => (a :: rest) :: ends rest

/-- Whether a text fits a pattern. -/
def fits : List Glob → List Char → Bool
  | [], cs => cs.isEmpty
  | many :: gs, cs => (ends cs).any fun cs => fits gs cs
  | _ :: _, [] => false
  | char c :: gs, d :: cs => c = d && fits gs cs
  | any :: gs, _ :: cs => fits gs cs
  | set isComplement members :: gs, c :: cs =>
    members.any (Member.holds c) != isComplement && fits gs cs

/-- Texts in a row without the shortest or the longest start that fits a pattern. It is looked for
in the first text; where all of that is the longest start, nothing is left of the row. -/
def cutStart (longest : Bool) (gs : List Glob) : List (List Char) → List (List Char)
  | [] => []
  | cs :: rest =>
    let lengths := List.range (cs.length + 1)
    let order := if longest then lengths.reverse else lengths
    match order.find? fun n => fits gs (cs.take n) with
    | some n => if longest && n = cs.length then [] else cs.drop n :: rest
    | none => cs :: rest

/-- Texts in a row without the shortest or the longest end that fits a pattern, and what is behind
it, if there is such an end. The longest is looked for in the first text, the shortest in the last
one that has any. -/
def cutEnd? (longest : Bool) (gs : List Glob) : List (List Char) → Option (List (List Char))
  | [] => none
  | cs :: rest =>
    let lengths := List.range (cs.length + 1)
    let order := if longest then lengths else lengths.reverse
    let here := (order.find? fun n => fits gs (cs.drop n)).map fun n => [cs.take n]
    if longest then here else ((cutEnd? false gs rest).map (cs :: ·)).or here

end Glob

end Scriptlet.Shell
