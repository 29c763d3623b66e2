import Mathlib.Data.List.Forall2
import ProofScript.Catalog
import ProofScript.Proofs.Evaluation.Ideal
import ProofScript.Proofs.Reading

/-!
# The laws that the lemmas state

The lemmas of the catalog, taken apart into their parameters and the two sides of their equations.
That the statements read as these laws is checked for each family of lemmas.

Without bounds on numbers and lists, both sides of a law stand for the same whenever both of them
stand for something. So the laws are facts about numbers, truth values and lists. The only exception
is `mapIdentity`, which applies a lambda.
-/
namespace ProofScript

/-- A lemma, taken apart. -/
structure Law where
  params : List Param
  left : Term
  right : Term
deriving DecidableEq

namespace Law

def signature (law : Law) : Signature :=
  ⟨law.params, .eq law.left law.right⟩

/-- Both sides stand for the same if they stand for something. -/
def Holds (law : Law) : Prop :=
  ∀ apply names x y, law.left.ideal apply names = some x → law.right.ideal apply names = some y →
    x = y

end Law

/-- The application of a builtin. -/
def Builtin.call (builtin : Builtin) (args : List Term) : Term :=
  .app builtin.name args

@[simp] theorem Builtin.ideal_call (apply : Value → Value → Except EvaluationError Value)
    (names : String → Reading) (builtin : Builtin) (args : List Term) :
    (builtin.call args).ideal apply names =
      (Term.idealArgs apply names args).bind (builtin.ideal apply) := by
  rw [call, Term.ideal, ofName?_name]
  rfl

namespace Term

variable (apply : Value → Value → Except EvaluationError Value) (names : String → Reading)

@[simp] theorem ideal_zero : (Term.const "Z").ideal apply names = some (.nat 0) := rfl

@[simp] theorem ideal_true : (Term.const "True").ideal apply names = some (.bool true) := rfl

@[simp] theorem ideal_false : (Term.const "False").ideal apply names = some (.bool false) := rfl

@[simp] theorem ideal_nil : (Term.const "Nil").ideal apply names = some (.list []) := rfl

@[simp] theorem ideal_var (name : String) :
    (Term.var name).ideal apply names = some (names name) := by
  rw [ideal]

@[simp] theorem ideal_lambda (param : String) (body : Term) :
    (Term.lambda param body).ideal apply names = none := by
  rw [ideal]

@[simp] theorem idealArgs_nil : idealArgs apply names [] = some [] := by
  rw [idealArgs]

@[simp] theorem idealArgs_cons (arg : Term) (args : List Term) :
    idealArgs apply names (arg :: args) =
      (arg.ideal apply names).bind fun first =>
        (idealArgs apply names args).bind fun rest => some (first :: rest) := by
  rw [idealArgs]
  rfl

end Term

namespace Catalog

/-! ### The laws -/

def numbers (names : List String) : List Param :=
  names.map fun name => ⟨name, .const "Nat"⟩

def truths (names : List String) : List Param :=
  names.map fun name => ⟨name, .const "Bool"⟩

def lists (names : List String) : List Param :=
  names.map fun name => ⟨name, .app "List" [.var "a"]⟩

section Terms

open Builtin

private abbrev zero : Term := .const "Z"
private abbrev one : Term := succ.call [zero]
private abbrev nil : Term := .const "Nil"
private abbrev yes : Term := .const "True"
private abbrev no : Term := .const "False"
private abbrev n : Term := .var "n"
private abbrev m : Term := .var "m"
private abbrev k : Term := .var "k"
private abbrev a : Term := .var "a"
private abbrev b : Term := .var "b"
private abbrev xs : Term := .var "xs"
private abbrev ys : Term := .var "ys"
private abbrev zs : Term := .var "zs"

def additionLaws : List Law := [
  ⟨numbers ["n"], plus.call [zero, n], n⟩,
  ⟨numbers ["n"], plus.call [n, zero], n⟩,
  ⟨numbers ["n", "m"], plus.call [succ.call [n], m], succ.call [plus.call [n, m]]⟩,
  ⟨numbers ["n", "m"], plus.call [n, succ.call [m]], succ.call [plus.call [n, m]]⟩,
  ⟨numbers ["n", "m"], plus.call [n, m], plus.call [m, n]⟩,
  ⟨numbers ["n", "m", "k"], plus.call [n, plus.call [m, k]], plus.call [plus.call [n, m], k]⟩,
  ⟨numbers ["n"], plus.call [n, one], succ.call [n]⟩]

def multiplicationLaws : List Law := [
  ⟨numbers ["n"], mult.call [zero, n], zero⟩,
  ⟨numbers ["n"], mult.call [n, zero], zero⟩,
  ⟨numbers ["n"], mult.call [one, n], n⟩,
  ⟨numbers ["n"], mult.call [n, one], n⟩,
  ⟨numbers ["n", "m"], mult.call [n, m], mult.call [m, n]⟩,
  ⟨numbers ["n", "m", "k"], mult.call [n, mult.call [m, k]], mult.call [mult.call [n, m], k]⟩,
  ⟨numbers ["n", "m", "k"], mult.call [n, plus.call [m, k]],
    plus.call [mult.call [n, m], mult.call [n, k]]⟩,
  ⟨numbers ["n"], double.call [n], plus.call [n, n]⟩,
  ⟨numbers ["n"], pow.call [n, zero], one⟩,
  ⟨numbers ["n"], pow.call [n, one], n⟩]

def subtractionLaws : List Law := [
  ⟨numbers ["n"], pred.call [succ.call [n]], n⟩,
  ⟨numbers ["n"], sub.call [n, zero], n⟩,
  ⟨numbers ["n"], sub.call [n, n], zero⟩,
  ⟨numbers ["n", "m"], sub.call [plus.call [n, m], m], n⟩,
  ⟨numbers ["n", "m"], min.call [n, m], min.call [m, n]⟩,
  ⟨numbers ["n", "m"], max.call [n, m], max.call [m, n]⟩,
  ⟨numbers ["n"], min.call [n, n], n⟩,
  ⟨numbers ["n"], max.call [n, n], n⟩]

def orderLaws : List Law := [
  ⟨numbers ["n"], leq.call [n, n], yes⟩,
  ⟨numbers ["n"], leq.call [zero, n], yes⟩,
  ⟨numbers ["n"], lt.call [n, n], no⟩,
  ⟨numbers ["n"], eqNat.call [n, n], yes⟩,
  ⟨numbers ["n"], even.call [double.call [n]], yes⟩,
  ⟨numbers ["n"], odd.call [succ.call [double.call [n]]], yes⟩,
  ⟨numbers ["n"], even.call [succ.call [n]], odd.call [n]⟩]

def booleanLaws : List Law := [
  ⟨truths ["b"], not.call [not.call [b]], b⟩,
  ⟨truths ["a", "b"], and.call [a, b], and.call [b, a]⟩,
  ⟨truths ["a", "b"], or.call [a, b], or.call [b, a]⟩,
  ⟨truths ["a", "b"], xor.call [a, b], xor.call [b, a]⟩,
  ⟨truths ["b"], and.call [b, no], no⟩,
  ⟨truths ["b"], or.call [b, yes], yes⟩,
  ⟨truths ["b"], xor.call [b, b], no⟩,
  ⟨truths ["b"] ++ numbers ["n"], ifThenElse.call [b, n, n], n⟩]

/-- Mapping the identity. -/
def mapIdentity : Law :=
  ⟨lists ["xs"], map.call [.lambda "x" (.var "x"), xs], xs⟩

def listLaws : List Law := [
  ⟨lists ["xs"], append.call [nil, xs], xs⟩,
  ⟨lists ["xs"], append.call [xs, nil], xs⟩,
  ⟨lists ["xs", "ys", "zs"], append.call [xs, append.call [ys, zs]],
    append.call [append.call [xs, ys], zs]⟩,
  ⟨lists ["xs", "ys"], length.call [append.call [xs, ys]],
    plus.call [length.call [xs], length.call [ys]]⟩,
  ⟨lists ["xs"], length.call [reverse.call [xs]], length.call [xs]⟩,
  ⟨lists ["xs"], reverse.call [reverse.call [xs]], xs⟩,
  ⟨lists ["xs", "ys"], reverse.call [append.call [xs, ys]],
    append.call [reverse.call [ys], reverse.call [xs]]⟩,
  ⟨lists ["xs"] ++ [⟨"x", .var "a"⟩], snoc.call [xs, .var "x"],
    append.call [xs, cons.call [.var "x", nil]]⟩,
  ⟨lists ["xs"] ++ [⟨"x", .var "a"⟩], length.call [snoc.call [xs, .var "x"]],
    succ.call [length.call [xs]]⟩,
  ⟨numbers ["n"] ++ [⟨"x", .var "a"⟩], length.call [replicate.call [n, .var "x"]], n⟩,
  ⟨⟨"f", .arrow (.var "a") (.var "b")⟩ :: lists ["xs"], length.call [map.call [.var "f", xs]],
    length.call [xs]⟩,
  ⟨⟨"f", .arrow (.var "a") (.var "b")⟩ :: lists ["xs", "ys"],
    map.call [.var "f", append.call [xs, ys]],
    append.call [map.call [.var "f", xs], map.call [.var "f", ys]]⟩,
  mapIdentity,
  ⟨⟨"p", .arrow (.var "a") (.const "Bool")⟩ :: lists ["xs", "ys"],
    filter.call [.var "p", append.call [xs, ys]],
    append.call [filter.call [.var "p", xs], filter.call [.var "p", ys]]⟩,
  ⟨[], concat.call [nil], nil⟩]

end Terms

def laws : List Law :=
  additionLaws ++ multiplicationLaws ++ subtractionLaws ++ orderLaws ++ booleanLaws ++ listLaws

/-! ### Reading the statements -/

/-- The statement of a lemma reads as a law. -/
def Reads (entry : Lemma) (law : Law) : Prop :=
  Signature.parse entry.statement = .ok law.signature

private theorem additionLemmas_read : List.Forall₂ Reads additionLemmas additionLaws := by
  repeat refine .cons (Signature.parse_ofList _ (by decide +kernel)) ?_
  exact .nil

private theorem multiplicationLemmas_read :
    List.Forall₂ Reads multiplicationLemmas multiplicationLaws := by
  repeat refine .cons (Signature.parse_ofList _ (by decide +kernel)) ?_
  exact .nil

private theorem subtractionLemmas_read : List.Forall₂ Reads subtractionLemmas subtractionLaws := by
  repeat refine .cons (Signature.parse_ofList _ (by decide +kernel)) ?_
  exact .nil

private theorem orderLemmas_read : List.Forall₂ Reads orderLemmas orderLaws := by
  repeat refine .cons (Signature.parse_ofList _ (by decide +kernel)) ?_
  exact .nil

private theorem booleanLemmas_read : List.Forall₂ Reads booleanLemmas booleanLaws := by
  repeat refine .cons (Signature.parse_ofList _ (by decide +kernel)) ?_
  exact .nil

private theorem listLemmas_read : List.Forall₂ Reads listLemmas listLaws := by
  repeat refine .cons (Signature.parse_ofList _ (by decide +kernel)) ?_
  exact .nil

/-- The statements of the lemmas read as the laws, in order. -/
theorem lemmas_read : List.Forall₂ Reads lemmas laws :=
  List.rel_append (List.rel_append (List.rel_append (List.rel_append (List.rel_append
    additionLemmas_read multiplicationLemmas_read) subtractionLemmas_read) orderLemmas_read)
    booleanLemmas_read) listLemmas_read

/-! ### The laws hold -/

theorem additionLaws_hold : ∀ law ∈ additionLaws, law.Holds := by
  simp only [additionLaws, List.forall_mem_cons]
  refine ⟨?_, ?_, ?_, ?_, ?_, ?_, ?_, List.forall_mem_nil _⟩
  all_goals
    intro apply names x y first second
    simp [Option.bind_eq_some_iff] at first second
    grind

theorem multiplicationLaws_hold : ∀ law ∈ multiplicationLaws, law.Holds := by
  simp only [multiplicationLaws, List.forall_mem_cons]
  refine ⟨?_, ?_, ?_, ?_, ?_, ?_, ?_, ?_, ?_, ?_, List.forall_mem_nil _⟩
  all_goals
    intro apply names x y first second
    simp [Option.bind_eq_some_iff] at first second
    grind

theorem subtractionLaws_hold : ∀ law ∈ subtractionLaws, law.Holds := by
  simp only [subtractionLaws, List.forall_mem_cons]
  refine ⟨?_, ?_, ?_, ?_, ?_, ?_, ?_, ?_, List.forall_mem_nil _⟩
  all_goals
    intro apply names x y first second
    simp [Option.bind_eq_some_iff] at first second
    grind

theorem even_succ (n : Nat) : ((n + 1) % 2 == 0) = (n % 2 == 1) := by
  rw [Bool.eq_iff_iff, beq_iff_eq, beq_iff_eq]
  omega

theorem orderLaws_hold : ∀ law ∈ orderLaws, law.Holds := by
  simp only [orderLaws, List.forall_mem_cons]
  refine ⟨?_, ?_, ?_, ?_, ?_, ?_, ?_, List.forall_mem_nil _⟩
  all_goals
    intro apply names x y first second
    -- all of them are about one number
    cases read : names "n" <;> simp [read, Reading.nat?, even_succ] at first second
    rw [← first, ← second]

theorem booleanLaws_hold : ∀ law ∈ booleanLaws, law.Holds := by
  simp only [booleanLaws, List.forall_mem_cons]
  refine ⟨?_, ?_, ?_, ?_, ?_, ?_, ?_, ?_, List.forall_mem_nil _⟩
  all_goals
    intro apply names x y first second
    simp [Option.bind_eq_some_iff] at first second
    grind

/-- Filtering two lists, one after the other. -/
theorem kept?_append (test : Value → Except EvaluationError Value) (left right : List Value) :
    kept? test (left ++ right) =
      (kept? test left).bind fun first => (kept? test right).map (first ++ ·) := by
  induction left with
  | nil => simp [kept?]
  | cons item rest ih =>
    rw [List.cons_append, kept?, kept?, ih]
    -- nothing is kept if some test fails, be it on the left or on the right
    cases kept? test rest <;> split <;> simp [Option.map_map, Function.comp_def]

/-- A lambda has no meaning here, so this says nothing about `mapIdentity`. -/
private theorem mapIdentity_holds : mapIdentity.Holds := by
  intro apply names x y first second
  simp [mapIdentity] at first

theorem listLaws_hold : ∀ law ∈ listLaws, law.Holds := by
  simp only [listLaws, List.forall_mem_cons]
  refine ⟨?_, ?_, ?_, ?_, ?_, ?_, ?_, ?_, ?_, ?_, ?_, ?_, mapIdentity_holds, ?_, ?_,
    List.forall_mem_nil _⟩
  all_goals
    intro apply names x y first second
    simp [Option.bind_eq_some_iff, toOption_eq_some, joined?, kept?_append, mapM_append_eq_ok,
      -List.mapM_append] at first second
    grind [length_of_mapM]

theorem laws_hold : ∀ law ∈ laws, law.Holds := by
  simp only [laws, List.forall_mem_append]
  exact ⟨⟨⟨⟨⟨additionLaws_hold, multiplicationLaws_hold⟩, subtractionLaws_hold⟩, orderLaws_hold⟩,
    booleanLaws_hold⟩, listLaws_hold⟩

end Catalog

end ProofScript
