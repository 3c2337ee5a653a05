import SqlBoundary.SplitPoint
import SqlBoundary.Proofs.Lex.Reader
import Mathlib.Data.List.Infix

/-! # A machine that scans one character at a time

The machine takes one character in each step. It knows what it is inside of, how many of the next
characters it has already accounted for, the character before and its position, and it may look
at the text ahead.
-/

namespace SqlBoundary.Machine

/-- What the machine is inside of. -/
inductive Mode
  | normal
  | single (escapes : Bool)
  | double
  | dollar (tag : Text)
  | line (start : Nat)
  | block (start depth : Nat)
deriving DecidableEq

/-- What a character leads to: the next mode, how many further characters belong to it, and the
split points that it completes. -/
structure Move where
  mode : Mode
  skip : Nat
  found : List SplitPoint
deriving DecidableEq

def Move.stay (mode : Mode) : Move := ⟨mode, 0, []⟩

def tagAhead? (s : Text) : Option Text := s.inits.find? isTag

def moveNormal (standardStrings : Bool) (previous : Option Char) (i : Nat) (s : Text) : Move :=
  match s with
  | ';' :: _ => ⟨.normal, 0, [.semicolon i]⟩
  | '"' :: _ => ⟨.double, 0, []⟩
  | '\'' :: _ =>
    ⟨.single (!standardStrings || previous = some 'E' || previous = some 'e'), 0, []⟩
  | '-' :: '-' :: _ => ⟨.line i, 1, []⟩
  | '/' :: '*' :: _ => ⟨.block i 1, 1, []⟩
  | '$' :: _ =>
    match if previous.any isIdentifierChar then none else tagAhead? s with
    | some tag => ⟨.dollar tag, tag.length - 1, []⟩
    | none => .stay .normal
  | _ => .stay .normal

/-- Inside single quotes. A lone quote ends the literal unless another one follows it after white
space that breaks the line. -/
def moveSingle (escapes : Bool) (s : Text) : Move :=
  match s with
  | '\\' :: _ => ⟨.single escapes, if escapes then 1 else 0, []⟩
  | '\'' :: '\'' :: _ => ⟨.single escapes, 1, []⟩
  | '\'' :: rest =>
    let space := rest.takeWhile isSpace
    if '\n' ∈ space ∧ (rest.dropWhile isSpace).head? = some '\'' then
      ⟨.single escapes, space.length + 1, []⟩
    else .stay .normal
  | _ => .stay (.single escapes)

def moveDouble (s : Text) : Move :=
  match s with
  | '"' :: '"' :: _ => ⟨.double, 1, []⟩
  | '"' :: _ => .stay .normal
  | _ => .stay .double

def moveDollar (tag s : Text) : Move :=
  if tag <+: s then ⟨.normal, tag.length - 1, []⟩ else .stay (.dollar tag)

def moveLine (start i : Nat) (s : Text) : Move :=
  match s with
  | '\n' :: _ => ⟨.normal, 0, [.comment start (i + 1)]⟩
  | _ => .stay (.line start)

def moveBlock (start depth i : Nat) (s : Text) : Move :=
  match s with
  | '/' :: '*' :: _ => ⟨.block start (depth + 1), 1, []⟩
  | '*' :: '/' :: _ =>
    if depth = 1 then ⟨.normal, 1, [.comment start (i + 2)]⟩
    else ⟨.block start (depth - 1), 1, []⟩
  | _ => .stay (.block start depth)

def move (standardStrings : Bool) (previous : Option Char) (i : Nat) (s : Text) : Mode → Move
  | .normal => moveNormal standardStrings previous i s
  | .single escapes => moveSingle escapes s
  | .double => moveDouble s
  | .dollar tag => moveDollar tag s
  | .line start => moveLine start i s
  | .block start depth => moveBlock start depth i s

structure State where
  mode : Mode
  skip : Nat
  previous : Option Char
  position : Nat
deriving DecidableEq

/-- In front of a text. -/
def State.initial : State := ⟨.normal, 0, none, 0⟩

/-- Takes the character `c`, with the text `ahead` after it. -/
def step (standardStrings : Bool) (q : State) (c : Char) (ahead : Text) :
    State × List SplitPoint :=
  match q.skip with
  | skip + 1 => (⟨q.mode, skip, some c, q.position + 1⟩, [])
  | 0 =>
    let m := move standardStrings q.previous q.position (c :: ahead) q.mode
    (⟨m.mode, m.skip, some c, q.position + 1⟩, m.found)

/-- At the end of a text a line comment is complete; everything else is left open. -/
def finish (i : Nat) : Mode → Scan
  | .normal => ⟨[], none⟩
  | .single _ => ⟨[], some .quotedString⟩
  | .double => ⟨[], some .quotedIdentifier⟩
  | .dollar _ => ⟨[], some .dollarQuotedString⟩
  | .line start => ⟨[.comment start i], none⟩
  | .block _ _ => ⟨[], some .blockComment⟩

def addPoints (found : List SplitPoint) (rest : Scan) : Scan :=
  { rest with points := found ++ rest.points }

def run (standardStrings : Bool) (q : State) : Text → Scan
  | [] => finish q.position q.mode
  | c :: s =>
    let (next, found) := step standardStrings q c s
    addPoints found (run standardStrings next s)

variable {standardStrings : Bool}

@[simp] theorem addPoints_nil (r : Scan) : addPoints [] r = r := rfl

theorem run_cons (mode : Mode) (p : Option Char) (i : Nat) (c : Char) (s : Text) :
    run standardStrings ⟨mode, 0, p, i⟩ (c :: s) =
      addPoints (move standardStrings p i (c :: s) mode).found
        (run standardStrings ⟨(move standardStrings p i (c :: s) mode).mode,
          (move standardStrings p i (c :: s) mode).skip, some c, i + 1⟩ s) := rfl

/-- Characters that are accounted for change nothing but the position. -/
theorem run_skip (mode : Mode) (w s : Text) (p : Option Char) (i : Nat) :
    run standardStrings ⟨mode, w.length, p, i⟩ (w ++ s) =
      run standardStrings ⟨mode, 0, w.getLast?.or p, i + w.length⟩ s := by
  induction w generalizing p i with
  | nil => rfl
  | cons c w ih =>
    change addPoints [] (run standardStrings ⟨mode, w.length, some c, i + 1⟩ (w ++ s)) = _
    rw [addPoints_nil, ih, getLast?_or_cons, List.length_cons, Nat.add_right_comm, Nat.add_assoc]

section Search
variable {α : Type} {read : Reader α} {mode : Mode}

/-- Where the reader finds nothing, the machine stays as it is. -/
def Idles (standardStrings : Bool) (mode : Mode) (read : Reader α) : Prop :=
  ∀ p i c s, read (c :: s) = none → move standardStrings p i (c :: s) mode = .stay mode

theorem Idles.run_of_search_eq_none (idles : Idles standardStrings mode read) {s : Text}
    (h : search read s = none) (p : Option Char) (i : Nat) :
    run standardStrings ⟨mode, 0, p, i⟩ s = finish (i + s.length) mode := by
  induction s generalizing p i with
  | nil => rfl
  | cons c s ih =>
    obtain ⟨hc, hs⟩ := search_cons_eq_none.1 h
    rw [run_cons, idles p i c s hc]
    change run standardStrings ⟨mode, 0, some c, i + 1⟩ s = _
    rw [ih hs, List.length_cons, Nat.add_right_comm, Nat.add_assoc]

theorem Idles.run_of_search_eq_some (idles : Idles standardStrings mode read)
    {spell : α → Text} (spells : read.Spells spell) {s : Text} {f : Found α}
    (h : search read s = some f) (p : Option Char) (i : Nat) :
    run standardStrings ⟨mode, 0, p, i⟩ s =
      run standardStrings ⟨mode, 0, f.skipped.getLast?.or p, i + f.skipped.length⟩
        (spell f.value ++ f.rest) := by
  induction search_eq_some_iff.1 h generalizing p i with
  | here hread =>
    rw [spells _ _ _ hread]
    rfl
  | @skip c s f hc hf ih =>
    rw [run_cons, idles p i c s hc]
    change run standardStrings ⟨mode, 0, some c, i + 1⟩ s = _
    rw [ih (search_eq_some_iff.2 hf)]
    simp only [Found.skip, getLast?_or_cons, List.length_cons, Nat.add_right_comm, Nat.add_assoc]

end Search

/-- Goes on in plain text after what a reader took, or stops with a construct left open. -/
def resume (standardStrings : Bool) (found : Nat → List SplitPoint) (unterminated : Construct)
    (p : Option Char) (i : Nat) : Option (Text × Text) → Scan
  | some (body, rest) => addPoints (found (i + body.length))
      (run standardStrings ⟨.normal, 0, body.getLast?.or p, i + body.length⟩ rest)
  | none => ⟨[], some unterminated⟩

theorem resume_prepend (found : Nat → List SplitPoint) (unterminated : Construct)
    (p : Option Char) (i : Nat) (head : Text) (r : Option (Text × Text)) :
    resume standardStrings found unterminated p i (prepend head r) =
      resume standardStrings found unterminated (head.getLast?.or p) (i + head.length) r := by
  cases r with
  | none => rfl
  | some r =>
    simp only [prepend, Option.map_some, resume, getLast?_or_append, List.length_append,
      Nat.add_assoc]

end SqlBoundary.Machine
