import Mathlib.Control.Monad.Basic
import PatternGrammar.Grammar.Reader
import PatternGrammar.Proofs.Text.Lines

/-!
# Grammars one after another

A source that ends between two lines can be followed by another one: the lines of both together are
the lines of the first and then those of the second. Lines are read one by one, so that the rules
come one after another too, and the first line that cannot be read is found where it was, with the
lines in front of it counted.

Main results:

* `Grammar.readLines_append`: reading two rows of lines one after another.
* `Grammar.parseBytes_append`: reading two sources one after another is reading each of them.
-/

namespace PatternGrammar

/-- The error with the lines counted from one that has `count` others in front of it. -/
def ReadError.below (count : ℕ) : ReadError → ReadError
  | line e => line { e with number := e.number + count }
  | source fault => source fault

namespace Grammar

/-! ## Rows of lines -/

theorem readLines_add (number count : ℕ) (lines : List (Except SourceFault (List Char))) :
    readLines (number + count) lines = (readLines number lines).mapError (·.below count) := by
  induction lines generalizing number with
  | nil => rfl
  | cons line lines ih =>
    have hnext : number + count + 1 = number + 1 + count := by omega
    cases line with
    | error fault => rfl
    | ok line =>
      rw [readLines, readLines]
      cases Rule.readLine line with
      | error fault => rfl
      | ok r? =>
        cases r? with
        | none =>
          dsimp only
          rw [hnext, ih]
        | some r =>
          dsimp only
          rw [hnext, ih]
          cases readLines (number + 1) lines <;> rfl

/-- Reading stops in the lines in front, or it goes on with the others. -/
theorem readLines_append (number : ℕ) (front rest : List (Except SourceFault (List Char))) :
    readLines number (front ++ rest) = do
      let rules ← readLines number front
      let more ← readLines (number + front.length) rest
      return rules ++ more := by
  induction front generalizing number with
  | nil =>
    cases h : readLines number rest <;> simp [readLines, h, bind, Except.bind, pure, Except.pure]
  | cons line front ih =>
    have hnext : number + (line :: front).length = number + 1 + front.length := by
      rw [List.length_cons]
      omega
    cases line with
    | error fault => rfl
    | ok line =>
      rw [hnext, List.cons_append, readLines, readLines]
      cases Rule.readLine line with
      | error fault => rfl
      | ok r? =>
        cases r? with
        | none =>
          dsimp only
          exact ih (number + 1)
        | some r =>
          dsimp only
          rw [ih]
          cases readLines (number + 1) front with
          | error e => rfl
          | ok rules => cases readLines (number + 1 + front.length) rest <;> rfl

/-! ## Sources -/

/-- Reading two sources one after another, the first of which ends between two lines: an error in
the first is the error; else the rules of the second follow those of the first, and an error in the
second is the error, where a line is counted from the first line of the first source. -/
theorem parseBytes_append {front : List UInt8} (h : Lines.Complete 10 front) (rest : List UInt8) :
    parseBytes (front ++ rest) =
      match parseBytes front, parseBytes rest with
      | .error e, _ => .error e
      | .ok g, .ok g' => .ok ⟨g.rules ++ g'.rules⟩
      | .ok _, .error (.source fault) => .error (.source fault)
      | .ok _, .error (.line e) =>
        .error (.line ⟨e.number + front.count 10, e.line, e.fault⟩) := by
  have hcount : (Lines.split 10 13 [] front).length = front.count 10 :=
    Lines.length_split_of_complete h
  unfold parseBytes
  dsimp only
  rw [Lines.split_append_of_complete h, List.map_append, readLines_append, List.length_map, hcount,
    readLines_add]
  cases readLines 1 ((Lines.split 10 13 [] front).map fun line =>
      (decode line).map String.toList) with
  | error e => rfl
  | ok rules =>
    cases readLines 1 ((Lines.split 10 13 [] rest).map fun line =>
        (decode line).map String.toList) with
    | ok more => rfl
    | error e => cases e <;> rfl

/-- A rule, a comment and a blank line. -/
def headed : String := "a := \x7bx\x7d\r\n# none\n\n"

/-- A rule, a line that is none, and a line that is not UTF-8. -/
def faulty : List UInt8 := "b := a+\n c = \r\n".toUTF8.toList ++ [0xFF]

theorem parseBytes_append_faulty :
    Lines.Complete 10 headed.toUTF8.toList ∧
      parseBytes headed.toUTF8.toList = .ok ⟨[⟨"a", .literal "x"⟩]⟩ ∧
      parseBytes faulty = .error (.line ⟨2, " c = ", .notADefinition⟩) ∧
      parseBytes (headed.toUTF8.toList ++ faulty) =
        .error (.line ⟨5, " c = ", .notADefinition⟩) := by
  have hcomplete : Lines.Complete 10 headed.toUTF8.toList := by decide +kernel
  have hfront : parseBytes headed.toUTF8.toList = .ok ⟨[⟨"a", .literal "x"⟩]⟩ := by decide +kernel
  have hrest : parseBytes faulty = .error (.line ⟨2, " c = ", .notADefinition⟩) := by decide +kernel
  have hcount : headed.toUTF8.toList.count 10 = 3 := by decide +kernel
  refine ⟨hcomplete, hfront, hrest, ?_⟩
  rw [parseBytes_append hcomplete, hfront, hrest]
  dsimp only
  rw [hcount]

end Grammar

end PatternGrammar
