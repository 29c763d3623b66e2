import ProofScript.Proofs.Grammar.SignatureDerivation
import ProofScript.Proofs.Token.Spelling

/-!
# What is read is well formed

The trees that are read have names of word characters where a name stands, constants and variables
are told apart by their spelling, every application has an argument, and what a signature ends in is
no function type. Printing relies on nothing else.
-/
namespace ProofScript

/-- A name as it is written: word characters, the first of which is no digit. -/
structure IsName (name : String) : Prop where
  word : IsWord name
  legal : isIdentifier name = true

theorem IsName.nonempty {name : String} (isName : IsName name) : name.toList ≠ [] := by
  intro empty
  have legal := isName.legal
  rw [isIdentifier, empty] at legal
  cases legal

/-! ### Names with a number behind them -/

/-- The constants of the language of terms begin with a capital themselves. -/
theorem isTermConstant_eq_beginsWithCapital (name : String) :
    isTermConstant name = beginsWithCapital name := by
  have constants : ∀ constant ∈ termConstants, beginsWithCapital constant = true := by
    decide +kernel
  unfold isTermConstant
  -- a listed constant makes no difference
  cases known : termConstants.contains name with
  | true => rw [constants name (List.contains_iff_mem.mp known), Bool.or_true]
  | false => rw [Bool.false_or]

theorem isTermConstant_numbered {stem : String} (nonempty : stem.toList ≠ [])
    (small : beginsWithCapital stem = false) (number : Nat) :
    isTermConstant (stem ++ toString number) = false := by
  obtain ⟨first, rest, spelled⟩ := List.exists_cons_of_ne_nil nonempty
  rw [beginsWithCapital, spelled] at small
  rw [isTermConstant_eq_beginsWithCapital, beginsWithCapital, String.toList_append, spelled]
  exact small

theorem IsName.numbered {stem : String} (isName : IsName stem) (number : Nat) :
    IsName (stem ++ toString number) := by
  constructor
  · intro c member
    rw [String.toList_append, List.mem_append] at member
    rcases member with inStem | digit
    · exact isName.word c inStem
    · have isDigit : c.isDigit = true := by
        rw [Nat.toString_eq_repr, Nat.toList_repr] at digit
        exact Nat.isDigit_of_mem_toDigits (by decide) (by decide) digit
      simp [Text.isWordChar, Char.isAlphanum, isDigit]
  · -- the first character is that of the stem
    have legal := isName.legal
    obtain ⟨first, rest, spelled⟩ := List.exists_cons_of_ne_nil isName.nonempty
    rw [isIdentifier, spelled] at legal
    rw [isIdentifier, String.toList_append, spelled]
    exact legal

namespace Term

mutual

def WellFormed : Term → Prop
  | .var name => IsName name ∧ isTermConstant name = false
  | .const name => IsName name ∧ isTermConstant name = true
  | .app head args => IsName head ∧ args ≠ [] ∧ WellFormedArgs args
  | .lambda param body => IsName param ∧ isTermConstant param = false ∧ WellFormed body

def WellFormedArgs : List Term → Prop
  | [] => True
  | arg :: args => WellFormed arg ∧ WellFormedArgs args

end

end Term

namespace Ty

mutual

def WellFormed : Ty → Prop
  | .const name => IsName name ∧ isTypeConstant name = true
  | .var name => IsName name ∧ isTypeConstant name = false
  | .app head args => IsName head ∧ args ≠ [] ∧ WellFormedArgs args
  | .eq left right => left.WellFormed ∧ right.WellFormed
  | .arrow source target => WellFormed source ∧ WellFormed target

def WellFormedArgs : List Ty → Prop
  | [] => True
  | arg :: args => WellFormed arg ∧ WellFormedArgs args

end

end Ty

structure Param.WellFormed (param : Param) : Prop where
  name : IsName param.name
  binder : isTermConstant param.name = false
  type : param.type.WellFormed

structure Signature.WellFormed (signature : Signature) : Prop where
  params : ∀ param ∈ signature.params, param.WellFormed
  distinct : (signature.params.map Param.name).Nodup
  result : signature.result.WellFormed
  ends : ∀ source target, signature.result ≠ .arrow source target

/-! ### Terms -/

namespace Grammar

theorem wellFormed_nameTerm {name : String} (isName : IsName name) :
    (nameTerm name).WellFormed := by
  unfold nameTerm
  split
  next constant => exact ⟨isName, constant⟩
  next variableName => exact ⟨isName, Bool.not_eq_true _ ▸ variableName⟩

theorem wellFormed_assembleTerm {items : List Term} {term : Term}
    (wellFormed : Term.WellFormedArgs items) (assembled : assembleTerm items = some term) :
    term.WellFormed := by
  unfold assembleTerm at assembled
  split at assembled
  next item =>
    cases assembled
    exact wellFormed.1
  -- several items, so that there is an argument
  next head args several =>
    cases assembled
    exact ⟨wellFormed.1.1, several, wellFormed.2⟩
  next head args several =>
    cases assembled
    exact ⟨wellFormed.1.1, several, wellFormed.2⟩
  next => cases assembled

mutual

theorem TermTree.wellFormed_items : (tree : TermTree) → {items : List Term} →
    NamesAreWords tree.tokens → tree.items? = some items → Term.WellFormedArgs items
  | .last atom, items, words, derived => by
    obtain ⟨term, found, returned⟩ := Option.bind_eq_some_iff.mp derived
    cases returned
    exact ⟨atom.wellFormed_term words found, trivial⟩
  | .lambda param legal body, items, words, derived => by
    obtain ⟨term, found, returned⟩ := Option.bind_eq_some_iff.mp derived
    obtain ⟨bodyItems, foundItems, assembled⟩ := Option.bind_eq_some_iff.mp found
    cases returned
    have isName : IsName param := ⟨words param (by simp [TermTree.tokens]), legal.1⟩
    have inBody : NamesAreWords body.tokens := words.tail.tail.tail
    have bodies := body.wellFormed_items inBody foundItems
    exact ⟨⟨isName, legal.2, wellFormed_assembleTerm bodies assembled⟩, trivial⟩
  | .cons first more, items, words, derived => by
    obtain ⟨term, found, returned⟩ := Option.bind_eq_some_iff.mp derived
    obtain ⟨others, foundOthers, returned⟩ := Option.bind_eq_some_iff.mp returned
    cases returned
    exact ⟨first.wellFormed_term words.left found,
      more.wellFormed_items words.right foundOthers⟩

theorem AtomTree.wellFormed_term : (atom : AtomTree) → {term : Term} →
    NamesAreWords atom.tokens → atom.term? = some term → term.WellFormed
  | .name name legal, term, words, derived => by
    cases derived
    exact wellFormed_nameTerm ⟨words name (by simp [AtomTree.tokens]), legal⟩
  | .parens inner, term, words, derived => by
    obtain ⟨items, found, assembled⟩ := Option.bind_eq_some_iff.mp derived
    have inside : NamesAreWords inner.tokens := words.tail.left
    exact wellFormed_assembleTerm (inner.wellFormed_items inside found) assembled

end

theorem TermTree.wellFormed_term (tree : TermTree) {term : Term} (words : NamesAreWords tree.tokens)
    (derived : tree.term? = some term) : term.WellFormed := by
  obtain ⟨items, found, assembled⟩ := Option.bind_eq_some_iff.mp derived
  exact wellFormed_assembleTerm (tree.wellFormed_items words found) assembled

/-! ### Types -/

theorem wellFormed_nameType {name : String} (isName : IsName name) :
    (nameType name).WellFormed := by
  unfold nameType
  split
  next constant => exact ⟨isName, constant⟩
  next variableName => exact ⟨isName, Bool.not_eq_true _ ▸ variableName⟩

theorem wellFormed_assembleType {items : List Ty} {type : Ty}
    (wellFormed : Ty.WellFormedArgs items) (assembled : assembleType items = some type) :
    type.WellFormed := by
  unfold assembleType at assembled
  split at assembled
  next item =>
    cases assembled
    exact wellFormed.1
  next head args several =>
    cases assembled
    exact ⟨wellFormed.1.1, several, wellFormed.2⟩
  next head args several =>
    cases assembled
    exact ⟨wellFormed.1.1, several, wellFormed.2⟩
  next => cases assembled

mutual

theorem TypeTree.wellFormed_type : (tree : TypeTree) → {type : Ty} →
    NamesAreWords tree.tokens → tree.type? = some type → type.WellFormed
  | .equality left right, type, words, derived => by
    obtain ⟨leftTerm, leftFound, returned⟩ := Option.bind_eq_some_iff.mp derived
    obtain ⟨rightTerm, rightFound, returned⟩ := Option.bind_eq_some_iff.mp returned
    cases returned
    exact ⟨left.wellFormed_term words.left leftFound,
      right.wellFormed_term words.right.tail rightFound⟩
  | .application items, type, words, derived => by
    obtain ⟨types, found, assembled⟩ := Option.bind_eq_some_iff.mp derived
    exact wellFormed_assembleType (items.wellFormed_items words found) assembled
  | .arrow source target, type, words, derived => by
    obtain ⟨sourceType, sourceFound, returned⟩ := Option.bind_eq_some_iff.mp derived
    obtain ⟨targetType, targetFound, returned⟩ := Option.bind_eq_some_iff.mp returned
    obtain ⟨types, found, assembled⟩ := Option.bind_eq_some_iff.mp sourceFound
    cases returned
    exact ⟨wellFormed_assembleType (source.wellFormed_items words.left found) assembled,
      target.wellFormed_type words.right.tail targetFound⟩

theorem TypeItemsTree.wellFormed_items : (tree : TypeItemsTree) → {items : List Ty} →
    NamesAreWords tree.tokens → tree.items? = some items → Ty.WellFormedArgs items
  | .last atom, items, words, derived => by
    obtain ⟨type, found, returned⟩ := Option.bind_eq_some_iff.mp derived
    cases returned
    exact ⟨atom.wellFormed_type words found, trivial⟩
  | .cons first more, items, words, derived => by
    obtain ⟨type, found, returned⟩ := Option.bind_eq_some_iff.mp derived
    obtain ⟨others, foundOthers, returned⟩ := Option.bind_eq_some_iff.mp returned
    cases returned
    exact ⟨first.wellFormed_type words.left found,
      more.wellFormed_items words.right foundOthers⟩

theorem TypeAtomTree.wellFormed_type : (atom : TypeAtomTree) → {type : Ty} →
    NamesAreWords atom.tokens → atom.type? = some type → type.WellFormed
  | .name name legal, type, words, derived => by
    cases derived
    exact wellFormed_nameType ⟨words name (by simp [TypeAtomTree.tokens]), legal⟩
  | .parens inner, type, words, derived =>
    inner.wellFormed_type words.tail.left derived

end

/-! ### Signatures -/

theorem wellFormed_anonymousParams {types : List Ty} (wellFormed : Ty.WellFormedArgs types)
    (index : Nat) : ∀ param ∈ anonymousParams index types, param.WellFormed := by
  induction types generalizing index with
  | nil =>
    intro param member
    cases member
  | cons type types ih =>
    intro param member
    rcases List.mem_cons.mp member with rfl | later
    · have stem : IsName Param.anonymousStem := ⟨by decide, by decide⟩
      exact ⟨stem.numbered index, isTermConstant_numbered (by decide) (by decide +kernel) index,
        wellFormed.1⟩
    · exact ih wellFormed.2 (index + 1) param later

theorem wellFormed_named {named : List NamedTree} {params : List Param}
    (words : NamesAreWords (named.flatMap NamedTree.tokens))
    (derived : named.mapM NamedTree.param? = some params) : ∀ param ∈ params, param.WellFormed := by
  induction named generalizing params with
  | nil =>
    rw [List.mapM_nil] at derived
    cases derived
    intro param member
    cases member
  | cons tree named ih =>
    simp only [List.mapM_cons, NamedTree.param?, Option.pure_def, Option.bind_eq_bind,
      Option.bind_eq_some_iff, Option.map_eq_some_iff, Option.some.injEq] at derived
    obtain ⟨_, ⟨type, found, rfl⟩, others, derivedOthers, rfl⟩ := derived
    rw [List.flatMap_cons] at words
    intro param member
    rcases List.mem_cons.mp member with rfl | later
    · have isName : IsName tree.name :=
        ⟨words tree.name (by simp [NamedTree.tokens]), tree.legal.1⟩
      exact ⟨isName, tree.legal.2, tree.type.wellFormed_type words.left.tail.tail.tail.left found⟩
    · exact ih words.right derivedOthers param later

end Grammar

namespace Ty

theorem wellFormed_arrowArgs : (type : Ty) → type.WellFormed → WellFormedArgs type.arrowArgs
  | .arrow _ target, wellFormed => ⟨wellFormed.1, wellFormed_arrowArgs target wellFormed.2⟩
  | .const _, _ | .var _, _ | .app _ _, _ | .eq _ _, _ => trivial

theorem wellFormed_arrowResult : (type : Ty) → type.WellFormed → type.arrowResult.WellFormed
  | .arrow _ target, wellFormed => wellFormed_arrowResult target wellFormed.2
  | .const _, wellFormed | .var _, wellFormed | .app _ _, wellFormed | .eq _ _, wellFormed =>
    wellFormed

theorem arrowResult_ne_arrow : (type source target : Ty) → type.arrowResult ≠ .arrow source target
  | .arrow _ target, _, _ => arrowResult_ne_arrow target _ _
  | .const _, _, _ | .var _, _, _ | .app _ _, _, _ | .eq _ _, _, _ => Ty.noConfusion

end Ty

theorem Term.wellFormed_of_parse {text : String} {term : Term}
    (parsed : Term.parse text = .ok term) : term.WellFormed := by
  obtain ⟨tokens, lexed, read⟩ := bind_eq_ok.mp parsed
  rw [mapError_eq_ok] at lexed read
  obtain ⟨tree, rfl, derived⟩ := Grammar.complete_term_eq_ok.mp read
  exact tree.wellFormed_term (namesAreWords_of_lex lexed) derived

theorem Ty.wellFormed_of_parse {text : String} {type : Ty} (parsed : Ty.parse text = .ok type) :
    type.WellFormed := by
  obtain ⟨tokens, lexed, read⟩ := bind_eq_ok.mp parsed
  rw [mapError_eq_ok] at lexed read
  obtain ⟨tree, rfl, derived⟩ := Grammar.complete_type_eq_ok.mp read
  exact tree.wellFormed_type (namesAreWords_of_lex lexed) derived

theorem Signature.wellFormed_of_parse {text : String} {signature : Signature}
    (parsed : Signature.parse text = .ok signature) : signature.WellFormed := by
  obtain ⟨tokens, lexed, read⟩ := bind_eq_ok.mp parsed
  rw [mapError_eq_ok] at lexed read
  obtain ⟨tree, rfl, derived⟩ := Grammar.signature_eq_ok_iff.mp read
  have words : NamesAreWords tree.tokens := namesAreWords_of_lex lexed
  obtain ⟨named, residual, derivedNamed, derivedResidual, names, rfl⟩ :=
    Grammar.SignatureTree.signature?_eq_some.mp derived
  have types := tree.residual.wellFormed_type words.right derivedResidual
  refine ⟨fun param member => ?_, names, residual.wellFormed_arrowResult types,
    residual.arrowResult_ne_arrow⟩
  rcases List.mem_append.mp member with written | positional
  · exact Grammar.wellFormed_named words.left derivedNamed param written
  · have arguments := residual.wellFormed_arrowArgs types
    exact Grammar.wellFormed_anonymousParams arguments 0 param positional

end ProofScript
