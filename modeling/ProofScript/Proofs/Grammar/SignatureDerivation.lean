import ProofScript.Proofs.Grammar.Parameters
import ProofScript.Proofs.Grammar.TypeDerivation

/-!
# How signatures are derived

A signature is written as named parameters, each in parentheses and followed by an arrow, and a type
behind them. The type quantifies over further parameters as far as it is a chain of arrows; these
are given positional names. All names have to be different.

Reading settles for a named parameter after three tokens. Nothing is lost by that, since no type
has a colon in it.

## Main results

`signature_eq_ok_iff`: a sequence of tokens is read as a signature if and only if it has a
derivation.

`parse_accepts_grammar`: the texts of types and of signatures are those that have a derivation, and
looking ahead for an equals sign agrees with trying both alternatives.
-/
namespace ProofScript.Grammar

/-- A parameter that is written with its name. -/
structure NamedTree where
  name : String
  legal : IsBinder name
  type : TypeTree

structure SignatureTree where
  named : List NamedTree
  residual : TypeTree

def NamedTree.tokens (tree : NamedTree) : List Token :=
  .leftParen :: .ident tree.name :: .colon :: (tree.type.tokens ++ [.rightParen, .arrow])

def NamedTree.param? (tree : NamedTree) : Option Param :=
  tree.type.type?.map (Param.mk tree.name)

namespace SignatureTree

/-- The tokens that are derived. -/
def tokens (tree : SignatureTree) : List Token :=
  tree.named.flatMap NamedTree.tokens ++ tree.residual.tokens

/-- The signature that is derived. There is none if two parameters have the same name. -/
def signature? (tree : SignatureTree) : Option Signature := do
  let named ← tree.named.mapM NamedTree.param?
  let residual ← tree.residual.type?
  let params := named ++ anonymousParams 0 residual.arrowArgs
  if (params.map Param.name).Nodup then some ⟨params, residual.arrowResult⟩ else none

end SignatureTree

/-! ### No type has a colon -/

mutual

theorem TermTree.colon_not_mem : (tree : TermTree) → .colon ∉ tree.tokens
  | .last atom => atom.colon_not_mem
  | .lambda param legal body => by simp [TermTree.tokens, body.colon_not_mem]
  | .cons first more => by simp [TermTree.tokens, first.colon_not_mem, more.colon_not_mem]

theorem AtomTree.colon_not_mem : (atom : AtomTree) → .colon ∉ atom.tokens
  | .name name legal => by simp [AtomTree.tokens]
  | .parens inner => by simp [AtomTree.tokens, inner.colon_not_mem]

end

mutual

theorem TypeTree.colon_not_mem : (tree : TypeTree) → .colon ∉ tree.tokens
  | .equality left right => by
    simp [TypeTree.tokens, left.colon_not_mem, right.colon_not_mem]
  | .application items => items.colon_not_mem
  | .arrow source target => by
    simp [TypeTree.tokens, source.colon_not_mem, target.colon_not_mem]

theorem TypeItemsTree.colon_not_mem : (tree : TypeItemsTree) → .colon ∉ tree.tokens
  | .last atom => atom.colon_not_mem
  | .cons first more => by simp [TypeItemsTree.tokens, first.colon_not_mem, more.colon_not_mem]

theorem TypeAtomTree.colon_not_mem : (atom : TypeAtomTree) → .colon ∉ atom.tokens
  | .name name legal => by simp [TypeAtomTree.tokens]
  | .parens inner => by simp [TypeAtomTree.tokens, inner.colon_not_mem]

end

/-! ### Named parameters -/

variable {fuel : Nat} {earlier params : List Param} {tokens rest : List Token}

/-- One named parameter is read before the others. -/
theorem namedParams_cons_eq_ok {name : String} {result : List Param × List Token} :
    namedParams (fuel + 1) earlier (.leftParen :: .ident name :: .colon :: tokens) = .ok result ↔
      IsBinder name ∧ name ∉ earlier.map Param.name ∧
        ∃ type after, Grammar.type tokens = .ok (type, .rightParen :: .arrow :: after) ∧
          namedParams fuel (earlier ++ [⟨name, type⟩]) after = .ok result := by
  have seen : earlier.any (·.name == name) = true ↔ name ∈ earlier.map Param.name := by simp
  rw [namedParams, bind_eq_ok]
  constructor
  · rintro ⟨bound, checked, read⟩
    obtain ⟨⟨type, afterType⟩, readType, readClosed⟩ := bind_eq_ok.mp read
    obtain ⟨afterParen, closed, readArrow⟩ := bind_eq_ok.mp readClosed
    obtain ⟨after, arrow, readRest⟩ := bind_eq_ok.mp readArrow
    obtain ⟨rfl, legal⟩ := checkBinder_eq_ok.mp checked
    rw [expect_eq_ok] at closed arrow
    subst closed arrow
    split at readRest
    next => cases readRest
    next unseen => exact ⟨legal, mt seen.mpr unseen, type, after, readType, readRest⟩
  · rintro ⟨legal, unseen, type, after, readType, readRest⟩
    refine ⟨name, checkBinder_eq_ok.mpr ⟨rfl, legal⟩, bind_eq_ok.mpr ⟨_, readType, ?_⟩⟩
    refine bind_eq_ok.mpr ⟨_, expect_eq_ok.mpr rfl, bind_eq_ok.mpr ⟨_, expect_eq_ok.mpr rfl, ?_⟩⟩
    rw [if_neg (mt seen.mp unseen)]
    exact readRest

theorem derives_of_namedParams (read : namedParams fuel earlier tokens = .ok (params, rest)) :
    ∃ (named : List NamedTree) (added : List Param),
      tokens = named.flatMap NamedTree.tokens ++ rest ∧
        named.mapM NamedTree.param? = some added ∧ params = earlier ++ added := by
  fun_induction namedParams fuel earlier tokens with
  | case1 fuel earlier name tokens ih =>
    obtain ⟨legal, -, type, after, readType, readRest⟩ := namedParams_cons_eq_ok.mp read
    obtain ⟨tree, rfl, derived⟩ := derives_of_typeWithin _ readType
    obtain ⟨named, added, rfl, derivedNamed, rfl⟩ := ih _ _ _ readRest
    refine ⟨⟨name, legal, tree⟩ :: named, ⟨name, type⟩ :: added, ?_, ?_, ?_⟩
    · simp [NamedTree.tokens]
    · simp [List.mapM_cons, NamedTree.param?, derived, derivedNamed]
    · simp
  | case2 =>
    cases read
    exact ⟨[], [], rfl, rfl, (List.append_nil _).symm⟩

/-- Whether a named parameter is opened. -/
def opensNamed : List Token → Bool
  | .leftParen :: .ident _ :: .colon :: _ => true
  | _ => false

theorem opensNamed_of_colon_not_mem (absent : .colon ∉ tokens) : opensNamed tokens = false := by
  unfold opensNamed
  split
  · simp at absent
  · rfl

/-- Parentheses that close without a colon between them open no named parameter. -/
theorem opensNamed_parens (absent : .colon ∉ tokens) :
    opensNamed (.leftParen :: (tokens ++ .rightParen :: rest)) = false := by
  match tokens, absent with
  | [], _ => rfl
  | [first], _ => cases first <;> rfl
  | first :: second :: others, absent =>
    cases first with
    | ident name =>
      -- what follows the name is no colon
      cases second with
      | colon => simp at absent
      | _ => rfl
    | _ => rfl

theorem TypeAtomTree.opensNamed_tokens (atom : TypeAtomTree) :
    opensNamed (atom.tokens ++ rest) = false := by
  cases atom with
  | name name legal => rfl
  | parens inner =>
    rw [TypeAtomTree.tokens, List.cons_append, List.append_assoc]
    exact opensNamed_parens inner.colon_not_mem

theorem TypeItemsTree.opensNamed_tokens (items : TypeItemsTree) :
    opensNamed (items.tokens ++ rest) = false := by
  cases items with
  | last atom => exact atom.opensNamed_tokens
  | cons first more =>
    rw [TypeItemsTree.tokens, List.append_assoc]
    exact first.opensNamed_tokens

/-- The named parameters are over where none is opened. -/
theorem namedParams_of_not_opensNamed (ended : opensNamed tokens = false) (fuel : Nat)
    (earlier : List Param) : namedParams fuel earlier tokens = .ok (earlier, tokens) := by
  unfold namedParams
  split
  · cases ended
  · rfl

theorem namedParams_tokens (named : List NamedTree) {added : List Param}
    (derived : named.mapM NamedTree.param? = some added)
    (distinct : ((earlier ++ added).map Param.name).Nodup) (ended : opensNamed rest = false)
    (enough : named.length ≤ fuel) :
    namedParams fuel earlier (named.flatMap NamedTree.tokens ++ rest) =
      .ok (earlier ++ added, rest) := by
  induction named generalizing fuel earlier added with
  | nil =>
    rw [List.mapM_nil] at derived
    cases derived
    rw [List.append_nil]
    exact namedParams_of_not_opensNamed ended fuel earlier
  | cons tree named ih =>
    obtain ⟨fuel, rfl⟩ := Nat.exists_eq_add_of_le' (Nat.le_trans (Nat.le_add_left 1 _) enough)
    simp only [List.mapM_cons, NamedTree.param?, Option.pure_def, Option.bind_eq_bind,
      Option.bind_eq_some_iff, Option.map_eq_some_iff, Option.some.injEq] at derived
    obtain ⟨_, ⟨type, found, rfl⟩, others, derivedOthers, rfl⟩ := derived
    have unseen : tree.name ∉ earlier.map Param.name := by
      rw [List.map_append] at distinct
      exact fun member => distinct.disjoint member List.mem_cons_self
    rw [List.append_cons] at distinct ⊢
    have readOthers := ih derivedOthers distinct (Nat.le_of_succ_le_succ enough)
    -- the type of the parameter ends where its parenthesis is closed
    have readType := tree.type.type_tokens found
      (by rfl : endsType (.rightParen :: .arrow :: (named.flatMap NamedTree.tokens ++ rest)) = true)
    rw [List.flatMap_cons, NamedTree.tokens, List.append_assoc, List.cons_append, List.cons_append,
      List.cons_append, List.append_assoc]
    exact namedParams_cons_eq_ok.mpr ⟨tree.legal, unseen, type, _, readType, readOthers⟩

/-! ### Whole signatures -/

theorem length_le_tokens (named : List NamedTree) (rest : List Token) :
    named.length ≤ (named.flatMap NamedTree.tokens ++ rest).length := by
  induction named with
  | nil => exact Nat.zero_le _
  | cons tree named ih =>
    simp only [List.flatMap_cons, List.length_append, NamedTree.tokens, List.length_cons] at ih ⊢
    omega

theorem closeSignature_eq_ok {named : List Param} {residual : Ty} {signature : Signature}
    (distinct : (named.map Param.name).Nodup) :
    closeSignature named residual = .ok signature ↔
      ((named ++ anonymousParams 0 residual.arrowArgs).map Param.name).Nodup ∧
        signature = ⟨named ++ anonymousParams 0 residual.arrowArgs, residual.arrowResult⟩ := by
  constructor
  · intro closed
    have names := closeSignature_nodup closed distinct
    unfold closeSignature at closed
    dsimp only at closed
    split at closed
    next => cases closed
    next =>
      cases closed
      exact ⟨names, rfl⟩
  · rintro ⟨names, rfl⟩
    unfold closeSignature
    dsimp only
    split
    next param clash =>
      -- a positional name that is declared already would stand twice
      have found := List.find?_some clash
      simp only [List.any_eq_true, beq_iff_eq] at found
      obtain ⟨declared, among, same⟩ := found
      rw [List.map_append] at names
      have positional : param.name ∈ (anonymousParams 0 residual.arrowArgs).map Param.name :=
        List.mem_map_of_mem (List.mem_of_find?_eq_some clash)
      have written : param.name ∈ named.map Param.name := by
        rw [← same]
        exact List.mem_map_of_mem among
      exact absurd positional (names.disjoint written)
    next => rfl

/-- What a signature is made of when it is derived. -/
theorem SignatureTree.signature?_eq_some {tree : SignatureTree} {signature : Signature} :
    tree.signature? = some signature ↔
      ∃ named residual, tree.named.mapM NamedTree.param? = some named ∧
        tree.residual.type? = some residual ∧
        ((named ++ anonymousParams 0 residual.arrowArgs).map Param.name).Nodup ∧
        signature = ⟨named ++ anonymousParams 0 residual.arrowArgs, residual.arrowResult⟩ := by
  simp only [signature?, Option.bind_eq_bind, Option.bind_eq_some_iff,
    Option.ite_none_right_eq_some, Option.some.injEq]
  constructor
  · rintro ⟨named, derived, residual, derived', names, rfl⟩
    exact ⟨named, residual, derived, derived', names, rfl⟩
  · rintro ⟨named, residual, derived, derived', names, rfl⟩
    exact ⟨named, derived, residual, derived', names, rfl⟩

theorem signature_eq_ok_iff {signature : Signature} :
    Grammar.signature tokens = .ok signature ↔
      ∃ tree : SignatureTree, tree.tokens = tokens ∧ tree.signature? = some signature := by
  rw [Grammar.signature, bind_eq_ok]
  constructor
  · rintro ⟨⟨params, left⟩, readNamed, read⟩
    obtain ⟨residual, readResidual, closed⟩ := bind_eq_ok.mp read
    have distinct := namedParams_nodup readNamed List.nodup_nil
    obtain ⟨named, added, rfl, derived, rfl⟩ := derives_of_namedParams readNamed
    obtain ⟨tree, rfl, derivedResidual⟩ := complete_type_eq_ok.mp readResidual
    obtain ⟨names, rfl⟩ := (closeSignature_eq_ok distinct).mp closed
    refine ⟨⟨named, tree⟩, rfl, ?_⟩
    exact SignatureTree.signature?_eq_some.mpr ⟨_, residual, derived, derivedResidual, names, rfl⟩
  · rintro ⟨tree, rfl, derived⟩
    obtain ⟨params, residual, derivedNamed, derivedResidual, names, rfl⟩ :=
      SignatureTree.signature?_eq_some.mp derived
    have distinct : (params.map Param.name).Nodup := by
      rw [List.map_append] at names
      exact names.of_append_left
    -- the named parameters end before the residual type, since that has no colon
    have readNamed : namedParams tree.tokens.length [] tree.tokens =
        .ok ([] ++ params, tree.residual.tokens) :=
      namedParams_tokens tree.named derivedNamed distinct
        (opensNamed_of_colon_not_mem tree.residual.colon_not_mem) (length_le_tokens tree.named _)
    refine ⟨_, readNamed, bind_eq_ok.mpr ⟨residual, ?_, ?_⟩⟩
    · exact complete_type_eq_ok.mpr ⟨tree.residual, rfl, derivedResidual⟩
    · exact (closeSignature_eq_ok distinct).mpr ⟨names, rfl⟩

end ProofScript.Grammar

namespace ProofScript

/-- The texts that are read as types and as signatures are those whose tokens have a derivation, and
they are read as what is derived. Where a type may end, looking ahead for an equals sign chooses the
alternative that has a derivation. -/
theorem parse_accepts_grammar {text : String} {tokens : List Token}
    (lexed : lex text = .ok tokens) :
    (∀ type, Ty.parse text = .ok type ↔
        ∃ tree : Grammar.TypeTree, tree.tokens = tokens ∧ tree.type? = some type) ∧
      (∀ signature, Signature.parse text = .ok signature ↔
        ∃ tree : Grammar.SignatureTree, tree.tokens = tokens ∧
          tree.signature? = some signature) ∧
      ∀ (tree : Grammar.TypeTree) (rest : List Token), Grammar.endsType rest = true →
        (Grammar.equalsAhead 0 (tree.tokens ++ rest) = true ↔
          ∃ left right, tree = .equality left right) := by
  refine ⟨fun type => ?_, fun signature => ?_, fun tree rest ends => ?_⟩
  · rw [Ty.parse, readText_eq_ok lexed]
    exact Grammar.complete_type_eq_ok
  · rw [Signature.parse, readText_eq_ok lexed]
    exact Grammar.signature_eq_ok_iff
  · rw [tree.equalsAhead_tokens ends]
    cases tree <;> simp [Grammar.TypeTree.isEquality]

namespace Grammar

theorem isIdentifier_f : isIdentifier "f" = true := by decide

/-- A named parameter, a positional one whose type is an equality, and an equality as result. -/
def guardedEquation : SignatureTree where
  named := [⟨"n", ⟨by decide, by decide +kernel⟩, .application (.last (.name "Nat" (by decide)))⟩]
  residual :=
    .arrow
      (.last (.parens (.equality (.last (.name "n" (by decide))) (.last (.name "Z" (by decide))))))
      (.equality (.cons (.name "f" isIdentifier_f) (.last (.name "n" (by decide))))
        (.last (.name "n" (by decide))))

end Grammar

theorem parse_accepts_grammar_guardedEquation :
    lex "(n : Nat) -> (n = Z) -> f n = n" = .ok Grammar.guardedEquation.tokens ∧
      Signature.parse "(n : Nat) -> (n = Z) -> f n = n" =
        .ok ⟨[⟨"n", .const "Nat"⟩, ⟨"_param_0", .eq (.var "n") (.const "Z")⟩],
          .eq (.app "f" [.var "n"]) (.var "n")⟩ ∧
      Grammar.equalsAhead 0 (Grammar.guardedEquation.residual.tokens ++ []) = false := by
  have lexed : lex "(n : Nat) -> (n = Z) -> f n = n" = .ok Grammar.guardedEquation.tokens := by
    decide +kernel
  obtain ⟨-, signatures, ahead⟩ := parse_accepts_grammar lexed
  refine ⟨lexed, (signatures _).mpr ⟨Grammar.guardedEquation, rfl, by decide +kernel⟩, ?_⟩
  rw [← Bool.not_eq_true, ahead _ [] rfl]
  rintro ⟨left, right, same⟩
  cases same

end ProofScript
