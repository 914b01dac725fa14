/-
Conditions of SQL as texts.  NOT binds stronger than AND, and AND stronger than
OR; a condition is true, false or unknown.  A text is read from the left, with a
frame for every open parenthesis.
-/
import Mathlib.Data.List.Basic

namespace SqlConditions

universe u v

inductive Truth where
  | false
  | unknown
  | true
deriving DecidableEq, Repr

namespace Truth

def and : Truth → Truth → Truth
  | .false, _ => .false
  | _, .false => .false
  | .true, other => other
  | truth, .true => truth
  | .unknown, .unknown => .unknown

def or : Truth → Truth → Truth
  | .true, _ => .true
  | _, .true => .true
  | .false, other => other
  | truth, .false => truth
  | .unknown, .unknown => .unknown

def not : Truth → Truth
  | .false => .true
  | .unknown => .unknown
  | .true => .false

def ofBool : Bool → Truth
  | Bool.true => .true
  | Bool.false => .false

@[simp] theorem and_true (truth : Truth) : truth.and .true = truth := by
  cases truth <;> rfl

@[simp] theorem true_and (truth : Truth) : Truth.true.and truth = truth := by
  cases truth <;> rfl

@[simp] theorem or_false (truth : Truth) : truth.or .false = truth := by
  cases truth <;> rfl

@[simp] theorem false_or (truth : Truth) : Truth.false.or truth = truth := by
  cases truth <;> rfl

theorem and_assoc (first second third : Truth) :
    (first.and second).and third = first.and (second.and third) := by
  cases first <;> cases second <;> cases third <;> rfl

theorem or_assoc (first second third : Truth) :
    (first.or second).or third = first.or (second.or third) := by
  cases first <;> cases second <;> cases third <;> rfl

theorem and_eq_true {first second : Truth} :
    first.and second = .true ↔ first = .true ∧ second = .true := by
  cases first <;> cases second <;> decide

/-- A conjunction over a list. -/
def all : List Truth → Truth
  | [] => .true
  | truth :: rest => truth.and (all rest)

/-- A disjunction over a list. -/
def any : List Truth → Truth
  | [] => .false
  | truth :: rest => truth.or (any rest)

end Truth

inductive Token (A : Type u) where
  | leftParen
  | rightParen
  | and
  | or
  | not
  | atom (value : A)
deriving DecidableEq, Repr

def Token.map {A : Type u} {B : Type v} (f : A → B) : Token A → Token B
  | .leftParen => .leftParen
  | .rightParen => .rightParen
  | .and => .and
  | .or => .or
  | .not => .not
  | .atom value => .atom (f value)

/-- The atoms of a text, in order. -/
def atoms {A : Type u} : List (Token A) → List A
  | [] => []
  | .atom value :: rest => value :: atoms rest
  | _ :: rest => atoms rest

/-- What has been read since the last open parenthesis: the disjuncts that are
complete, the conjuncts since the last OR, and whether a NOT waits. -/
structure Frame where
  disjuncts : Truth
  conjuncts : Truth
  negated : Bool

namespace Frame

def empty : Frame := ⟨.false, .true, false⟩

def read (frame : Frame) (truth : Truth) : Frame :=
  { frame with
    conjuncts := frame.conjuncts.and (if frame.negated then truth.not else truth)
    negated := false }

def nextDisjunct (frame : Frame) : Frame := ⟨frame.disjuncts.or frame.conjuncts, .true, false⟩

def value (frame : Frame) : Truth := frame.disjuncts.or frame.conjuncts

end Frame

/-- Reads a text.  After an operand comes an operator, a closing parenthesis or
the end, and anywhere else an operand; a text that breaks this is no condition. -/
def readTokens (outer : List Frame) (frame : Frame) (afterOperand : Bool) :
    List (Token Truth) → Option Truth
  | [] => if afterOperand ∧ outer = [] then some frame.value else none
  | .atom truth :: rest =>
      if afterOperand then none else readTokens outer (frame.read truth) true rest
  | .not :: rest =>
      if afterOperand then none
      else readTokens outer { frame with negated := !frame.negated } false rest
  | .leftParen :: rest =>
      if afterOperand then none else readTokens (frame :: outer) .empty false rest
  | .rightParen :: rest =>
      match outer with
      | [] => none
      | enclosing :: outer =>
          if afterOperand then readTokens outer (enclosing.read frame.value) true rest else none
  | .and :: rest => if afterOperand then readTokens outer frame false rest else none
  | .or :: rest => if afterOperand then readTokens outer frame.nextDisjunct false rest else none

/-- The truth of a whole condition. -/
def evaluate (text : List (Token Truth)) : Option Truth := readTokens [] .empty false text

inductive Level where
  | operand
  | conjunction
  | disjunction
deriving DecidableEq, Repr

/-- The grammar of conditions, with the truth of each text. -/
inductive Reads : Level → List (Token Truth) → Truth → Prop where
  | atom (truth : Truth) : Reads .operand [.atom truth] truth
  | parens {text : List (Token Truth)} {truth : Truth} (inner : Reads .disjunction text truth) :
      Reads .operand (.leftParen :: text ++ [.rightParen]) truth
  | not {text : List (Token Truth)} {truth : Truth} (operand : Reads .operand text truth) :
      Reads .operand (.not :: text) truth.not
  | ofOperand {text : List (Token Truth)} {truth : Truth} (operand : Reads .operand text truth) :
      Reads .conjunction text truth
  | and {left right : List (Token Truth)} {first second : Truth}
      (conjuncts : Reads .conjunction left first) (operand : Reads .operand right second) :
      Reads .conjunction (left ++ .and :: right) (first.and second)
  | ofConjunction {text : List (Token Truth)} {truth : Truth}
      (conjuncts : Reads .conjunction text truth) : Reads .disjunction text truth
  | or {left right : List (Token Truth)} {first second : Truth}
      (disjuncts : Reads .disjunction left first) (conjuncts : Reads .conjunction right second) :
      Reads .disjunction (left ++ .or :: right) (first.or second)

namespace Frame

/-- What the reader does with a text of a level, whatever comes after it. -/
def Advances (level : Level) (text : List (Token Truth)) (truth : Truth) : Prop :=
  match level with
  | .operand => ∀ outer frame rest,
      readTokens outer frame false (text ++ rest) = readTokens outer (frame.read truth) true rest
  | .conjunction => ∀ outer (frame : Frame) rest, frame.negated = false →
      readTokens outer frame false (text ++ rest) = readTokens outer (frame.read truth) true rest
  | .disjunction => ∀ outer rest, ∃ frame : Frame, frame.negated = false ∧
      frame.value = truth ∧
      readTokens outer .empty false (text ++ rest) = readTokens outer frame true rest

theorem read_negate (frame : Frame) (truth : Truth) :
    Frame.read { frame with negated := !frame.negated } truth = frame.read truth.not := by
  cases frame with
  | mk disjuncts conjuncts negated => cases negated <;> cases truth <;> rfl

theorem read_read {frame : Frame} (hnegated : frame.negated = false) (first second : Truth) :
    (frame.read first).read second = frame.read (first.and second) := by
  simp [Frame.read, hnegated, Truth.and_assoc]

theorem value_read_nextDisjunct {frame : Frame} (truth : Truth) :
    (frame.nextDisjunct.read truth).value = frame.value.or truth := by
  simp [Frame.read, Frame.nextDisjunct, Frame.value]

end Frame

/-- The reader follows the grammar. -/
theorem Reads.advances {level : Level} {text : List (Token Truth)} {truth : Truth}
    (hreads : Reads level text truth) : Frame.Advances level text truth := by
  induction hreads with
  | atom truth =>
      intro outer frame rest
      rfl
  | @parens text truth inner ih =>
      intro outer frame rest
      obtain ⟨last, hnegated, hvalue, hread⟩ := ih (frame :: outer) (.rightParen :: rest)
      have htext : Token.leftParen :: text ++ [Token.rightParen] ++ rest =
          .leftParen :: (text ++ .rightParen :: rest) := by simp
      rw [htext]
      change readTokens (frame :: outer) .empty false (text ++ .rightParen :: rest) = _
      rw [hread, ← hvalue]
      rfl
  | @not text truth operand ih =>
      intro outer frame rest
      change readTokens outer { frame with negated := !frame.negated } false (text ++ rest) = _
      rw [ih, Frame.read_negate]
  | ofOperand operand ih =>
      intro outer frame rest _
      exact ih outer frame rest
  | @and left right first second conjuncts operand ihConjuncts ihOperand =>
      intro outer frame rest hnegated
      have htext : left ++ Token.and :: right ++ rest = left ++ (.and :: (right ++ rest)) := by
        simp
      rw [htext, ihConjuncts outer frame _ hnegated]
      change readTokens outer (frame.read first) false (right ++ rest) = _
      rw [ihOperand, Frame.read_read hnegated]
  | ofConjunction conjuncts ih =>
      intro outer rest
      refine ⟨Frame.empty.read _, rfl, ?_, ih outer .empty rest rfl⟩
      simp [Frame.read, Frame.empty, Frame.value]
  | @or left right first second disjuncts conjuncts ihDisjuncts ihConjuncts =>
      intro outer rest
      have htext : left ++ Token.or :: right ++ rest = left ++ (.or :: (right ++ rest)) := by
        simp
      obtain ⟨frame, hnegated, hvalue, hread⟩ := ihDisjuncts outer (.or :: (right ++ rest))
      refine ⟨frame.nextDisjunct.read second, rfl, ?_, ?_⟩
      · rw [Frame.value_read_nextDisjunct, hvalue]
      · rw [htext, hread]
        change readTokens outer frame.nextDisjunct false (right ++ rest) = _
        exact ihConjuncts outer frame.nextDisjunct rest rfl

theorem Reads.evaluate_eq {text : List (Token Truth)} {truth : Truth}
    (hreads : Reads .disjunction text truth) : evaluate text = some truth := by
  obtain ⟨frame, -, hvalue, hread⟩ := hreads.advances [] []
  rw [List.append_nil] at hread
  rw [evaluate, hread]
  simp [readTokens, hvalue]

theorem Reads.ne_nil {level : Level} {text : List (Token Truth)} {truth : Truth}
    (hreads : Reads level text truth) : text ≠ [] := by
  induction hreads with
  | ofOperand operand ih => exact ih
  | ofConjunction conjuncts ih => exact ih
  | _ => simp

/-- Two conjunctions are joined by an AND. -/
theorem Reads.append {left right : List (Token Truth)} {first second : Truth}
    (hleft : Reads .conjunction left first) (hright : Reads .conjunction right second) :
    Reads .conjunction (left ++ .and :: right) (first.and second) := by
  generalize hlevel : Level.conjunction = level at hright
  induction hright with
  | ofOperand operand => exact hleft.and operand
  | @and inner last third fourth conjuncts operand ih =>
      have htext : left ++ Token.and :: (inner ++ Token.and :: last) =
          (left ++ .and :: inner) ++ .and :: last := by simp
      rw [htext, ← Truth.and_assoc]
      exact (ih rfl).and operand
  | _ => cases hlevel

section Joining

variable {A : Type u}

theorem atoms_append (first second : List (Token A)) :
    atoms (first ++ second) = atoms first ++ atoms second := by
  induction first with
  | nil => rfl
  | cons token rest ih =>
      cases token with
      | atom value =>
          rw [List.cons_append, atoms, atoms, ih, List.cons_append]
      | _ => exact ih

/-- A separator after each text, but not after the last one. -/
theorem dropLast_flatMap_separator (separator : Token A) (texts : List (List (Token A))) :
    (texts.flatMap fun text => text ++ [separator]).dropLast =
      List.intercalate [separator] texts := by
  induction texts with
  | nil => rfl
  | cons text rest ih =>
      cases rest with
      | nil => simp
      | cons next others =>
          rw [List.flatMap_cons, List.dropLast_append_of_ne_nil (by simp), ih,
            List.intercalate_cons_cons]

theorem atoms_intercalate {separator : Token A} (hseparator : atoms [separator] = [])
    (texts : List (List (Token A))) :
    atoms (List.intercalate [separator] texts) = texts.flatMap atoms := by
  induction texts with
  | nil => rfl
  | cons text rest ih =>
      cases rest with
      | nil => simp
      | cons next others =>
          rw [List.intercalate_cons_cons, atoms_append, atoms_append, hseparator, ih,
            List.append_nil]
          simp only [List.flatMap_cons]

variable {f : A → Truth}

/-- The texts of two operands joined by an OR. -/
theorem Reads.appendOr {left right : List (Token Truth)} {first second : Truth}
    (hleft : Reads .disjunction left first) (hright : Reads .disjunction right second) :
    Reads .disjunction (left ++ .or :: right) (first.or second) := by
  generalize hlevel : Level.disjunction = level at hright
  induction hright with
  | ofConjunction conjuncts => exact hleft.or conjuncts
  | @or inner last third fourth disjuncts conjuncts ih =>
      have htext : left ++ Token.or :: (inner ++ Token.or :: last) =
          (left ++ .or :: inner) ++ .or :: last := by simp
      rw [htext, ← Truth.or_assoc]
      exact (ih rfl).or conjuncts
  | _ => cases hlevel

theorem Reads.intercalate_and {texts : List (List (Token A))} {truths : List Truth}
    (hreads : List.Forall₂
      (fun text truth => Reads .conjunction (text.map (Token.map f)) truth) texts truths)
    (hne : texts ≠ []) :
    Reads .conjunction ((List.intercalate [.and] texts).map (Token.map f)) (Truth.all truths) := by
  induction hreads with
  | nil => exact absurd rfl hne
  | @cons text truth rest truths hfirst hrest ih =>
      cases hrest with
      | nil =>
          rw [List.intercalate_singleton, Truth.all, Truth.all, Truth.and_true]
          exact hfirst
      | @cons next truth' others truths' hnext hothers =>
          rw [List.intercalate_cons_cons, List.map_append, List.map_append, Truth.all,
            List.append_assoc]
          exact hfirst.append (ih (by simp))

theorem Reads.intercalate_or {texts : List (List (Token A))} {truths : List Truth}
    (hreads : List.Forall₂
      (fun text truth => Reads .conjunction (text.map (Token.map f)) truth) texts truths)
    (hne : texts ≠ []) :
    Reads .disjunction ((List.intercalate [.or] texts).map (Token.map f)) (Truth.any truths) := by
  induction hreads with
  | nil => exact absurd rfl hne
  | @cons text truth rest truths hfirst hrest ih =>
      cases hrest with
      | nil =>
          rw [List.intercalate_singleton, Truth.any, Truth.any, Truth.or_false]
          exact hfirst.ofConjunction
      | @cons next truth' others truths' hnext hothers =>
          rw [List.intercalate_cons_cons, List.map_append, List.map_append, Truth.any,
            List.append_assoc]
          exact hfirst.ofConjunction.appendOr (ih (by simp))

end Joining

end SqlConditions
