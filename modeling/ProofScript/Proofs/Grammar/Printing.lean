import ProofScript.Proofs.Grammar.WellFormed

/-!
# Printing and reading back

What is printed for a well-formed tree spells the tokens of a derivation of that tree, so reading it
gives the tree back.
-/
namespace ProofScript

open Grammar

/-! ### Terms -/

namespace Grammar

theorem nameTerm_of_constant {name : String} (constant : isTermConstant name = true) :
    nameTerm name = .const name := if_pos constant

theorem nameTerm_of_variable {name : String} (variableName : isTermConstant name = false) :
    nameTerm name = .var name := by
  rw [nameTerm, variableName, if_neg Bool.false_ne_true]

theorem assembleTerm_nameTerm (head : String) {args : List Term} (several : args ≠ []) :
    assembleTerm (nameTerm head :: args) = some (.app head args) := by
  obtain ⟨arg, others, rfl⟩ := List.exists_cons_of_ne_nil several
  unfold nameTerm
  split <;> rfl

end Grammar

theorem IsName.spells {name : String} (isName : IsName name) :
    Spells name.toList [.ident name] :=
  Spells.name isName.word isName.nonempty

/-- A piece in parentheses. -/
theorem Spells.parens {text : String} {tokens : List Token} (spells : Spells text.toList tokens) :
    Spells ("(" ++ text ++ ")").toList (.leftParen :: (tokens ++ [.rightParen])) := by
  rw [String.toList_append, String.toList_append, List.append_assoc]
  exact (spells.append .rightParen rfl).leftParen

namespace Term

/-- `tree` derives the term from the tokens that are printed for it. -/
def PrintedAs (term : Term) (tree : TermTree) : Prop :=
  tree.term? = some term ∧ Spells term.render.toList tree.tokens

/-- A term is printed as an item, in parentheses unless it is a plain name. -/
theorem PrintedAs.atom {term : Term} {tree : TermTree} (printed : term.PrintedAs tree)
    (wellFormed : term.WellFormed) :
    ∃ atom : AtomTree, atom.term? = some term ∧
      Spells (Text.parensUnless term.isAtomic term.render).toList atom.tokens := by
  cases term with
  | var name =>
    obtain ⟨isName, variableName⟩ := wellFormed
    refine ⟨.name name isName.legal, ?_, isName.spells⟩
    rw [AtomTree.term?, nameTerm_of_variable variableName]
  | const name =>
    obtain ⟨isName, constant⟩ := wellFormed
    refine ⟨.name name isName.legal, ?_, isName.spells⟩
    rw [AtomTree.term?, nameTerm_of_constant constant]
  | app head args => exact ⟨.parens tree, printed.1, printed.2.parens⟩
  | lambda param body => exact ⟨.parens tree, printed.1, printed.2.parens⟩

mutual

theorem exists_printedAs : (term : Term) → term.WellFormed → ∃ tree, term.PrintedAs tree
  | .var name, wellFormed => by
    obtain ⟨isName, variableName⟩ := wellFormed
    refine ⟨.last (.name name isName.legal), ?_, isName.spells⟩
    simp [TermTree.term?, TermTree.items?, AtomTree.term?, assembleTerm,
      nameTerm_of_variable variableName]
  | .const name, wellFormed => by
    obtain ⟨isName, constant⟩ := wellFormed
    refine ⟨.last (.name name isName.legal), ?_, isName.spells⟩
    simp [TermTree.term?, TermTree.items?, AtomTree.term?, assembleTerm,
      nameTerm_of_constant constant]
  | .app head args, wellFormed => by
    obtain ⟨isName, several, inside⟩ := wellFormed
    obtain ⟨tree, derived, spells⟩ := exists_printedArgs args inside several
    refine ⟨.cons (.name head isName.legal) tree, ?_, ?_⟩
    · simp [TermTree.term?, TermTree.items?, AtomTree.term?, derived,
        assembleTerm_nameTerm head several]
    · -- the name of the head ends at the blank behind it
      rw [render, String.toList_append, String.toList_append, List.append_assoc]
      exact isName.spells.append spells.space rfl
  | .lambda param body, wellFormed => by
    obtain ⟨isName, variableName, inside⟩ := wellFormed
    obtain ⟨tree, derived, spells⟩ := exists_printedAs body inside
    refine ⟨.lambda param ⟨isName.legal, variableName⟩ tree, ?_, ?_⟩
    · rw [TermTree.term?] at derived
      simp [TermTree.term?, TermTree.items?, derived, assembleTerm]
    · have named : Spells (param.toList ++ (" => ".toList ++ body.render.toList))
          (.ident param :: .fatArrow :: tree.tokens) :=
        isName.spells.append spells.fatArrow rfl
      have whole := named.lambda isName.word isName.nonempty
      rw [render, String.toList_append, String.toList_append, String.toList_append,
        List.append_assoc, List.append_assoc]
      exact whole

theorem exists_printedArgs : (args : List Term) → WellFormedArgs args → args ≠ [] →
    ∃ tree : TermTree, tree.items? = some args ∧ Spells (renderArgs args).toList tree.tokens
  | [], _, several => absurd rfl several
  | [arg], wellFormed, _ => by
    obtain ⟨tree, printed⟩ := exists_printedAs arg wellFormed.1
    obtain ⟨atom, derived, spells⟩ := printed.atom wellFormed.1
    refine ⟨.last atom, by simp [TermTree.items?, derived], ?_⟩
    exact spells
  | arg :: other :: args, wellFormed, _ => by
    obtain ⟨tree, printed⟩ := exists_printedAs arg wellFormed.1
    obtain ⟨atom, derived, spells⟩ := printed.atom wellFormed.1
    obtain ⟨more, derivedMore, spellsMore⟩ :=
      exists_printedArgs (other :: args) wellFormed.2 (List.cons_ne_nil _ _)
    refine ⟨.cons atom more, by simp [TermTree.items?, derived, derivedMore], ?_⟩
    rw [renderArgs, String.toList_append, String.toList_append, List.append_assoc]
    exact spells.append spellsMore.space rfl

end

theorem parse_render {term : Term} (wellFormed : term.WellFormed) :
    Term.parse term.render = .ok term := by
  obtain ⟨tree, derived, spells⟩ := exists_printedAs term wellFormed
  rw [Term.parse, readText_eq_ok (lex_of_spells spells)]
  exact complete_term_eq_ok.mpr ⟨tree, rfl, derived⟩

end Term

/-! ### Types -/

namespace Grammar

theorem nameType_of_constant {name : String} (constant : isTypeConstant name = true) :
    nameType name = .const name := if_pos constant

theorem nameType_of_variable {name : String} (variableName : isTypeConstant name = false) :
    nameType name = .var name := by
  rw [nameType, variableName, if_neg Bool.false_ne_true]

theorem assembleType_nameType (head : String) {args : List Ty} (several : args ≠ []) :
    assembleType (nameType head :: args) = some (.app head args) := by
  obtain ⟨arg, others, rfl⟩ := List.exists_cons_of_ne_nil several
  unfold nameType
  split <;> rfl

end Grammar

namespace Ty

/-- `tree` derives the type from the tokens that are printed for it, as an application if the type
can stand to the left of an arrow. -/
structure PrintedAs (type : Ty) (tree : TypeTree) : Prop where
  derived : tree.type? = some type
  spells : Spells type.render.toList tree.tokens
  source : type.isArrowSource = true → ∃ items, tree = .application items

/-- A type is printed as an item, in parentheses unless it is a plain name. -/
theorem PrintedAs.atom {type : Ty} {tree : TypeTree} (printed : type.PrintedAs tree)
    (wellFormed : type.WellFormed) :
    ∃ atom : TypeAtomTree, atom.type? = some type ∧
      Spells (Text.parensUnless type.isAtomic type.render).toList atom.tokens := by
  cases type with
  | const name =>
    obtain ⟨isName, constant⟩ := wellFormed
    refine ⟨.name name isName.legal, ?_, isName.spells⟩
    rw [TypeAtomTree.type?, nameType_of_constant constant]
  | var name =>
    obtain ⟨isName, variableName⟩ := wellFormed
    refine ⟨.name name isName.legal, ?_, isName.spells⟩
    rw [TypeAtomTree.type?, nameType_of_variable variableName]
  | app head args => exact ⟨.parens tree, printed.derived, printed.spells.parens⟩
  | eq left right => exact ⟨.parens tree, printed.derived, printed.spells.parens⟩
  | arrow source target => exact ⟨.parens tree, printed.derived, printed.spells.parens⟩

/-- A type is printed as an application to the left of an arrow. -/
theorem PrintedAs.renderSource {type : Ty} {tree : TypeTree} (printed : type.PrintedAs tree) :
    ∃ items : TypeItemsTree, items.items?.bind assembleType = some type ∧
      Spells type.renderSource.toList items.tokens := by
  rw [Ty.renderSource, Text.parensUnless]
  cases bare : type.isArrowSource with
  | true =>
    obtain ⟨items, rfl⟩ := printed.source bare
    exact ⟨items, printed.derived, printed.spells⟩
  | false =>
    refine ⟨.last (.parens tree), ?_, printed.spells.parens⟩
    simp [TypeItemsTree.items?, TypeAtomTree.type?, printed.derived, assembleType]

mutual

theorem exists_printedAs : (type : Ty) → type.WellFormed → ∃ tree, type.PrintedAs tree
  | .const name, wellFormed => by
    obtain ⟨isName, constant⟩ := wellFormed
    refine ⟨.application (.last (.name name isName.legal)), ?_, isName.spells, fun _ => ⟨_, rfl⟩⟩
    simp [TypeTree.type?, TypeItemsTree.items?, TypeAtomTree.type?, assembleType,
      nameType_of_constant constant]
  | .var name, wellFormed => by
    obtain ⟨isName, variableName⟩ := wellFormed
    refine ⟨.application (.last (.name name isName.legal)), ?_, isName.spells, fun _ => ⟨_, rfl⟩⟩
    simp [TypeTree.type?, TypeItemsTree.items?, TypeAtomTree.type?, assembleType,
      nameType_of_variable variableName]
  | .app head args, wellFormed => by
    obtain ⟨isName, several, inside⟩ := wellFormed
    obtain ⟨tree, derived, spells⟩ := exists_printedArgs args inside several
    refine ⟨.application (.cons (.name head isName.legal) tree), ?_, ?_, fun _ => ⟨_, rfl⟩⟩
    · simp [TypeTree.type?, TypeItemsTree.items?, TypeAtomTree.type?, derived,
        assembleType_nameType head several]
    · -- the name of the head ends at the blank behind it
      rw [render, String.toList_append, String.toList_append, List.append_assoc]
      exact isName.spells.append spells.space rfl
  | .eq left right, wellFormed => by
    obtain ⟨leftTree, leftDerived, leftSpells⟩ := left.exists_printedAs wellFormed.1
    obtain ⟨rightTree, rightDerived, rightSpells⟩ := right.exists_printedAs wellFormed.2
    refine ⟨.equality leftTree rightTree, ?_, ?_, fun bare => by cases bare⟩
    · simp [TypeTree.type?, leftDerived, rightDerived]
    · -- no parentheses are needed: the sign ends the left term, also if that is a lambda
      rw [render, String.toList_append, String.toList_append, List.append_assoc]
      exact leftSpells.append rightSpells.equals rfl
  | .arrow source target, wellFormed => by
    obtain ⟨sourceTree, sourcePrinted⟩ := exists_printedAs source wellFormed.1
    obtain ⟨targetTree, targetPrinted⟩ := exists_printedAs target wellFormed.2
    obtain ⟨items, derived, spells⟩ := sourcePrinted.renderSource
    refine ⟨.arrow items targetTree, ?_, ?_, fun bare => by cases bare⟩
    · simp [TypeTree.type?, derived, targetPrinted.derived]
    · rw [render, String.toList_append, String.toList_append, List.append_assoc]
      exact spells.append targetPrinted.spells.arrow rfl

theorem exists_printedArgs : (args : List Ty) → WellFormedArgs args → args ≠ [] →
    ∃ tree : TypeItemsTree, tree.items? = some args ∧ Spells (renderArgs args).toList tree.tokens
  | [], _, several => absurd rfl several
  | [arg], wellFormed, _ => by
    obtain ⟨tree, printed⟩ := exists_printedAs arg wellFormed.1
    obtain ⟨atom, derived, spells⟩ := printed.atom wellFormed.1
    refine ⟨.last atom, by simp [TypeItemsTree.items?, derived], ?_⟩
    exact spells
  | arg :: other :: args, wellFormed, _ => by
    obtain ⟨tree, printed⟩ := exists_printedAs arg wellFormed.1
    obtain ⟨atom, derived, spells⟩ := printed.atom wellFormed.1
    obtain ⟨more, derivedMore, spellsMore⟩ :=
      exists_printedArgs (other :: args) wellFormed.2 (List.cons_ne_nil _ _)
    refine ⟨.cons atom more, by simp [TypeItemsTree.items?, derived, derivedMore], ?_⟩
    rw [renderArgs, String.toList_append, String.toList_append, List.append_assoc]
    exact spells.append spellsMore.space rfl

end

theorem parse_render {type : Ty} (wellFormed : type.WellFormed) :
    Ty.parse type.render = .ok type := by
  obtain ⟨tree, printed⟩ := exists_printedAs type wellFormed
  rw [Ty.parse, readText_eq_ok (lex_of_spells printed.spells)]
  exact complete_type_eq_ok.mpr ⟨tree, rfl, printed.derived⟩

end Ty

end ProofScript
