import ProofScript.Grammar
import ProofScript.Signature.Canonical

/-!
# The catalog of lemmas

The lemmas that a proof may cite. They are written like the signatures of theorems and taken over
with canonical names, so that a signature is compared with a lemma by comparing canonical forms.
-/
namespace ProofScript

/-- A lemma as it is written. -/
structure Lemma where
  name : String
  statement : String
deriving DecidableEq, Repr

namespace Catalog

/-- Addition. -/
def additionLemmas : List Lemma := [
  ⟨"plusZeroLeft", "(n : Nat) -> plus Z n = n"⟩,
  ⟨"plusZeroRight", "(n : Nat) -> plus n Z = n"⟩,
  ⟨"plusSuccLeft", "(n : Nat) -> (m : Nat) -> plus (S n) m = S (plus n m)"⟩,
  ⟨"plusSuccRight", "(n : Nat) -> (m : Nat) -> plus n (S m) = S (plus n m)"⟩,
  ⟨"plusCommutative", "(n : Nat) -> (m : Nat) -> plus n m = plus m n"⟩,
  ⟨"plusAssociative",
    "(n : Nat) -> (m : Nat) -> (k : Nat) -> plus n (plus m k) = plus (plus n m) k"⟩,
  ⟨"plusOneSucc", "(n : Nat) -> plus n (S Z) = S n"⟩]

/-- Multiplication and powers. -/
def multiplicationLemmas : List Lemma := [
  ⟨"multZeroLeft", "(n : Nat) -> mult Z n = Z"⟩,
  ⟨"multZeroRight", "(n : Nat) -> mult n Z = Z"⟩,
  ⟨"multOneLeft", "(n : Nat) -> mult (S Z) n = n"⟩,
  ⟨"multOneRight", "(n : Nat) -> mult n (S Z) = n"⟩,
  ⟨"multCommutative", "(n : Nat) -> (m : Nat) -> mult n m = mult m n"⟩,
  ⟨"multAssociative",
    "(n : Nat) -> (m : Nat) -> (k : Nat) -> mult n (mult m k) = mult (mult n m) k"⟩,
  ⟨"multDistributesOverPlusRight",
    "(n : Nat) -> (m : Nat) -> (k : Nat) -> mult n (plus m k) = plus (mult n m) (mult n k)"⟩,
  ⟨"doubleIsPlus", "(n : Nat) -> double n = plus n n"⟩,
  ⟨"powZero", "(n : Nat) -> pow n Z = S Z"⟩,
  ⟨"powOne", "(n : Nat) -> pow n (S Z) = n"⟩]

/-- Truncated subtraction, minimum and maximum. -/
def subtractionLemmas : List Lemma := [
  ⟨"predSucc", "(n : Nat) -> pred (S n) = n"⟩,
  ⟨"subZeroRight", "(n : Nat) -> sub n Z = n"⟩,
  ⟨"subDiag", "(n : Nat) -> sub n n = Z"⟩,
  ⟨"subPlusCancel", "(n : Nat) -> (m : Nat) -> sub (plus n m) m = n"⟩,
  ⟨"minCommutative", "(n : Nat) -> (m : Nat) -> min n m = min m n"⟩,
  ⟨"maxCommutative", "(n : Nat) -> (m : Nat) -> max n m = max m n"⟩,
  ⟨"minIdempotent", "(n : Nat) -> min n n = n"⟩,
  ⟨"maxIdempotent", "(n : Nat) -> max n n = n"⟩]

/-- Order and parity. -/
def orderLemmas : List Lemma := [
  ⟨"leqRefl", "(n : Nat) -> leq n n = True"⟩,
  ⟨"leqZero", "(n : Nat) -> leq Z n = True"⟩,
  ⟨"ltIrrefl", "(n : Nat) -> lt n n = False"⟩,
  ⟨"eqNatRefl", "(n : Nat) -> eqNat n n = True"⟩,
  ⟨"evenDouble", "(n : Nat) -> even (double n) = True"⟩,
  ⟨"oddSuccDouble", "(n : Nat) -> odd (S (double n)) = True"⟩,
  ⟨"evenSuccOdd", "(n : Nat) -> even (S n) = odd n"⟩]

/-- Truth values. -/
def booleanLemmas : List Lemma := [
  ⟨"notInvolutive", "(b : Bool) -> not (not b) = b"⟩,
  ⟨"andCommutative", "(a : Bool) -> (b : Bool) -> and a b = and b a"⟩,
  ⟨"orCommutative", "(a : Bool) -> (b : Bool) -> or a b = or b a"⟩,
  ⟨"xorCommutative", "(a : Bool) -> (b : Bool) -> xor a b = xor b a"⟩,
  ⟨"andFalseRight", "(b : Bool) -> and b False = False"⟩,
  ⟨"orTrueRight", "(b : Bool) -> or b True = True"⟩,
  ⟨"xorSelf", "(b : Bool) -> xor b b = False"⟩,
  ⟨"ifThenElseSame", "(b : Bool) -> (n : Nat) -> ifThenElse b n n = n"⟩]

/-- Lists. -/
def listLemmas : List Lemma := [
  ⟨"appendNilLeft", "(xs : List a) -> append Nil xs = xs"⟩,
  ⟨"appendNilRight", "(xs : List a) -> append xs Nil = xs"⟩,
  ⟨"appendAssociative",
    "(xs : List a) -> (ys : List a) -> (zs : List a) -> append xs (append ys zs) = append (append xs ys) zs"⟩,
  ⟨"lengthAppend",
    "(xs : List a) -> (ys : List a) -> length (append xs ys) = plus (length xs) (length ys)"⟩,
  ⟨"lengthReverse", "(xs : List a) -> length (reverse xs) = length xs"⟩,
  ⟨"reverseInvolutive", "(xs : List a) -> reverse (reverse xs) = xs"⟩,
  ⟨"reverseAppend",
    "(xs : List a) -> (ys : List a) -> reverse (append xs ys) = append (reverse ys) (reverse xs)"⟩,
  ⟨"snocIsAppend", "(xs : List a) -> (x : a) -> snoc xs x = append xs (Cons x Nil)"⟩,
  ⟨"lengthSnoc", "(xs : List a) -> (x : a) -> length (snoc xs x) = S (length xs)"⟩,
  ⟨"lengthReplicate", "(n : Nat) -> (x : a) -> length (replicate n x) = n"⟩,
  ⟨"mapLength", "(f : a -> b) -> (xs : List a) -> length (map f xs) = length xs"⟩,
  ⟨"mapAppend",
    "(f : a -> b) -> (xs : List a) -> (ys : List a) -> map f (append xs ys) = append (map f xs) (map f ys)"⟩,
  ⟨"mapIdentity", "(xs : List a) -> map (\\x => x) xs = xs"⟩,
  ⟨"filterAppend",
    "(p : a -> Bool) -> (xs : List a) -> (ys : List a) -> filter p (append xs ys) = append (filter p xs) (filter p ys)"⟩,
  ⟨"concatNil", "concat Nil = Nil"⟩]

/-- All lemmas. No two have the same name. -/
def lemmas : List Lemma :=
  additionLemmas ++ multiplicationLemmas ++ subtractionLemmas ++ orderLemmas ++ booleanLemmas ++
    listLemmas

end Catalog

/-- Lemmas by name, with canonical signatures. -/
structure Catalog where
  entries : List (String × Signature)

namespace Catalog

def size (catalog : Catalog) : Nat :=
  catalog.entries.length

/-- The canonical signature of the lemma called `name`. -/
def find? (catalog : Catalog) (name : String) : Option Signature :=
  catalog.entries.lookup name

/-- Reads the given lemmas. A lemma that cannot be read is reported under its name. -/
def ofLemmas : List Lemma → Except (String × Diagnostic) Catalog
  | [] => .ok ⟨[]⟩
  | entry :: rest => do
    let signature ← (Signature.parse entry.statement).mapError (entry.name, ·)
    let catalog ← ofLemmas rest
    return ⟨(entry.name, signature.canonical) :: catalog.entries⟩

/-- The catalog of all lemmas. -/
def standard : Except (String × Diagnostic) Catalog :=
  ofLemmas lemmas

end Catalog

end ProofScript
