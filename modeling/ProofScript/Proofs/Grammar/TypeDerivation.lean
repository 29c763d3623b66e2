import ProofScript.Proofs.Grammar.TermDerivation

/-!
# How types are derived

A type is an equality of two terms, an application, or an application followed by an arrow and a
type. An application is a sequence of items, each of which is a name or a type in parentheses; a
single item stands for itself, and several of them for the first one applied to the others.

The reading decides between an equality and the other two by looking ahead. Whatever follows the
type, the decision is the right one (`TypeTree.equalsAhead_tokens`), since the tokens of terms and
of applications have neither an equals sign nor an arrow outside of parentheses.

## Main results

`TypeTree.type_tokens` and `derives_of_typeWithin`: the reading takes off what has a derivation, and
what it takes off has one.

`complete_type_eq_ok`: a sequence of tokens is read as a type if and only if it has a derivation.
-/
namespace ProofScript.Grammar

mutual

inductive TypeTree where
  | equality (left right : TermTree)
  | application (items : TypeItemsTree)
  | arrow (source : TypeItemsTree) (target : TypeTree)

/-- The items of an application, from the first to the last. -/
inductive TypeItemsTree where
  | last (atom : TypeAtomTree)
  | cons (first : TypeAtomTree) (rest : TypeItemsTree)

/-- A name, or a type in parentheses. -/
inductive TypeAtomTree where
  | name (name : String) (legal : isIdentifier name = true)
  | parens (inner : TypeTree)

end

mutual

/-- The tokens that are derived. -/
def TypeTree.tokens : TypeTree → List Token
  | .equality left right => left.tokens ++ .equals :: right.tokens
  | .application items => items.tokens
  | .arrow source target => source.tokens ++ .arrow :: target.tokens

def TypeItemsTree.tokens : TypeItemsTree → List Token
  | .last atom => atom.tokens
  | .cons first rest => first.tokens ++ rest.tokens

def TypeAtomTree.tokens : TypeAtomTree → List Token
  | .name name _ => [.ident name]
  | .parens inner => .leftParen :: (inner.tokens ++ [.rightParen])

end

/-- What a sequence of items stands for. Only a plain name can be applied. -/
def assembleType : List Ty → Option Ty
  | [item] => some item
  | .const head :: args => some (.app head args)
  | .var head :: args => some (.app head args)
  | _ => none

mutual

/-- The type that is derived. There is none if something other than a name is applied. -/
def TypeTree.type? : TypeTree → Option Ty
  | .equality left right => return .eq (← left.term?) (← right.term?)
  | .application items => items.items?.bind assembleType
  | .arrow source target => return .arrow (← source.items?.bind assembleType) (← target.type?)

/-- The types that the items stand for. -/
def TypeItemsTree.items? : TypeItemsTree → Option (List Ty)
  | .last atom => return [← atom.type?]
  | .cons first rest => return (← first.type?) :: (← rest.items?)

def TypeAtomTree.type? : TypeAtomTree → Option Ty
  | .name name _ => some (nameType name)
  | .parens inner => inner.type?

end

/-- Whether the derivation takes the first alternative, a pair of terms around an equals sign. -/
def TypeTree.isEquality : TypeTree → Bool
  | .equality _ _ => true
  | _ => false

/-- Whether a type may end before `tokens`: they are all used up, or a parenthesis is closed. -/
def endsType : List Token → Bool
  | [] | .rightParen :: _ => true
  | _ => false

/-! ### Looking ahead -/

section EqualsAhead

variable (depth : Nat) (rest : List Token)

@[simp] theorem equalsAhead_ident (name : String) :
    equalsAhead depth (.ident name :: rest) = equalsAhead depth rest := by
  cases depth <;> rfl

@[simp] theorem equalsAhead_lambda :
    equalsAhead depth (.lambda :: rest) = equalsAhead depth rest := by
  cases depth <;> rfl

@[simp] theorem equalsAhead_fatArrow :
    equalsAhead depth (.fatArrow :: rest) = equalsAhead depth rest := by
  cases depth <;> rfl

@[simp] theorem equalsAhead_leftParen :
    equalsAhead depth (.leftParen :: rest) = equalsAhead (depth + 1) rest := by
  cases depth <;> rfl

@[simp] theorem equalsAhead_rightParen :
    equalsAhead (depth + 1) (.rightParen :: rest) = equalsAhead depth rest := rfl

@[simp] theorem equalsAhead_inner_equals :
    equalsAhead (depth + 1) (.equals :: rest) = equalsAhead (depth + 1) rest := rfl

@[simp] theorem equalsAhead_inner_arrow :
    equalsAhead (depth + 1) (.arrow :: rest) = equalsAhead (depth + 1) rest := rfl

end EqualsAhead

mutual

/-- Looking ahead passes over a term. -/
theorem TermTree.equalsAhead_tokens : (tree : TermTree) → (depth : Nat) → (rest : List Token) →
    equalsAhead depth (tree.tokens ++ rest) = equalsAhead depth rest
  | .last atom, depth, rest => atom.equalsAhead_tokens depth rest
  | .lambda param legal body, depth, rest => by
    simp [TermTree.tokens, body.equalsAhead_tokens]
  | .cons first more, depth, rest => by
    rw [TermTree.tokens, List.append_assoc, first.equalsAhead_tokens, more.equalsAhead_tokens]

theorem AtomTree.equalsAhead_tokens : (atom : AtomTree) → (depth : Nat) → (rest : List Token) →
    equalsAhead depth (atom.tokens ++ rest) = equalsAhead depth rest
  | .name name legal, depth, rest => by simp [AtomTree.tokens]
  | .parens inner, depth, rest => by
    simp [AtomTree.tokens, List.append_assoc, inner.equalsAhead_tokens]

end

mutual

/-- Within parentheses, looking ahead passes over a type. -/
theorem TypeTree.equalsAhead_inner : (tree : TypeTree) → (depth : Nat) → (rest : List Token) →
    equalsAhead (depth + 1) (tree.tokens ++ rest) = equalsAhead (depth + 1) rest
  | .equality left right, depth, rest => by
    simp [TypeTree.tokens, List.append_assoc, TermTree.equalsAhead_tokens]
  | .application items, depth, rest => items.equalsAhead_tokens (depth + 1) rest
  | .arrow source target, depth, rest => by
    simp [TypeTree.tokens, List.append_assoc, source.equalsAhead_tokens,
      target.equalsAhead_inner]

/-- Looking ahead passes over an application, also outside of parentheses. -/
theorem TypeItemsTree.equalsAhead_tokens : (tree : TypeItemsTree) → (depth : Nat) →
    (rest : List Token) → equalsAhead depth (tree.tokens ++ rest) = equalsAhead depth rest
  | .last atom, depth, rest => atom.equalsAhead_tokens depth rest
  | .cons first more, depth, rest => by
    rw [TypeItemsTree.tokens, List.append_assoc, first.equalsAhead_tokens,
      more.equalsAhead_tokens]

theorem TypeAtomTree.equalsAhead_tokens : (atom : TypeAtomTree) → (depth : Nat) →
    (rest : List Token) → equalsAhead depth (atom.tokens ++ rest) = equalsAhead depth rest
  | .name name legal, depth, rest => by simp [TypeAtomTree.tokens]
  | .parens inner, depth, rest => by
    simp [TypeAtomTree.tokens, List.append_assoc, inner.equalsAhead_inner]

end

/-- Looking ahead tells equalities from the other types. -/
theorem TypeTree.equalsAhead_tokens (tree : TypeTree) {rest : List Token}
    (ends : endsType rest = true) : equalsAhead 0 (tree.tokens ++ rest) = tree.isEquality := by
  cases tree with
  | equality left right =>
    rw [tokens, List.append_assoc, left.equalsAhead_tokens]
    rfl
  | application items =>
    rw [tokens, items.equalsAhead_tokens]
    -- nothing comes up before the end of the type
    cases rest with
    | nil => rfl
    | cons token rest => cases token <;> simp_all [endsType, equalsAhead, isEquality]
  | arrow source target =>
    rw [tokens, List.append_assoc, source.equalsAhead_tokens]
    rfl

/-! ### Reading applications -/

variable {fuel : Nat} {tokens rest : List Token}

theorem applyType_eq_ok {head type : Ty} {args : List Ty} :
    applyType head args = .ok type ↔ assembleType (head :: args) = some type := by
  cases args with
  | nil => simp [applyType, assembleType]
  | cons arg args => cases head <;> simp [applyType, assembleType]

theorem typeAtom_eq_error (ends : endsApplication tokens = true) (fuel : Nat) :
    ∃ failure, typeAtom fuel tokens = .error failure := by
  cases fuel with
  | zero => exact ⟨_, rfl⟩
  | succ fuel =>
    cases tokens with
    | nil => exact ⟨_, rfl⟩
    | cons token tokens => cases token <;> simp_all [endsApplication, typeAtom]

/-- An application is read like arguments, and then the first of them is applied to the others. -/
theorem typeApplication_eq_ok {type : Ty} :
    typeApplication fuel tokens = .ok (type, rest) ↔
      ∃ items, typeArgs fuel tokens = .ok (items, rest) ∧ assembleType items = some type := by
  cases fuel with
  | zero => simp [typeApplication, typeArgs]
  | succ fuel =>
    cases ends : endsApplication tokens with
    | true =>
      -- there is no first item
      obtain ⟨failure, failed⟩ := typeAtom_eq_error ends fuel
      simp [typeApplication, typeArgs, ends, failed, bind, Except.bind, assembleType]
    | false =>
      simp only [typeApplication, typeArgs, ends, Bool.false_eq_true, if_false, bind_eq_ok]
      constructor
      · rintro ⟨⟨head, between⟩, first, ⟨args, after⟩, more, applied, assembled, returned⟩
        cases returned
        exact ⟨head :: args, ⟨_, first, _, more, rfl⟩, applyType_eq_ok.mp assembled⟩
      · rintro ⟨items, ⟨⟨head, between⟩, first, ⟨args, after⟩, more, returned⟩, assembled⟩
        cases returned
        exact ⟨_, first, _, more, type, applyType_eq_ok.mpr assembled, rfl⟩

theorem rest_of_typeArgs (read : typeArgs fuel tokens = .ok ([], rest)) : tokens = rest := by
  cases fuel with
  | zero => cases read
  | succ fuel =>
    rw [typeArgs] at read
    split at read
    next =>
      cases read
      rfl
    next =>
      obtain ⟨_, -, more⟩ := bind_eq_ok.mp read
      obtain ⟨_, -, returned⟩ := bind_eq_ok.mp more
      cases returned

/-! ### The two ways of reading a type -/

theorem typeWithin_of_equalsAhead (ahead : equalsAhead 0 tokens = true) {type : Ty} :
    typeWithin (fuel + 1) tokens = .ok (type, rest) ↔
      ∃ left after right, term tokens = .ok (left, .equals :: after) ∧
        term after = .ok (right, rest) ∧ type = .eq left right := by
  rw [typeWithin, if_pos ahead, bind_eq_ok]
  constructor
  · rintro ⟨⟨left, between⟩, readLeft, read⟩
    obtain ⟨after, sign, readRest⟩ := bind_eq_ok.mp read
    obtain ⟨⟨right, last⟩, readRight, returned⟩ := bind_eq_ok.mp readRest
    rw [expect_eq_ok] at sign
    subst sign
    cases returned
    exact ⟨left, after, right, readLeft, readRight, rfl⟩
  · rintro ⟨left, after, right, readLeft, readRight, rfl⟩
    refine ⟨_, readLeft, bind_eq_ok.mpr ⟨after, expect_eq_ok.mpr rfl, ?_⟩⟩
    exact bind_eq_ok.mpr ⟨_, readRight, rfl⟩

/-- The type goes on if an arrow follows the application. -/
theorem typeWithin_of_no_equalsAhead (ahead : equalsAhead 0 tokens = false) {type : Ty} :
    typeWithin (fuel + 1) tokens = .ok (type, rest) ↔
      ∃ source between, typeApplication fuel tokens = .ok (source, between) ∧
        ((∃ after target, between = .arrow :: after ∧
            typeWithin fuel after = .ok (target, rest) ∧ type = .arrow source target) ∨
          (∀ after, between ≠ .arrow :: after) ∧ rest = between ∧ type = source) := by
  rw [typeWithin, ahead, if_neg Bool.false_ne_true, bind_eq_ok]
  constructor
  · rintro ⟨⟨source, between⟩, readSource, read⟩
    refine ⟨source, between, readSource, ?_⟩
    split at read
    next first after same =>
      cases same
      obtain ⟨⟨target, last⟩, readTarget, returned⟩ := bind_eq_ok.mp read
      cases returned
      exact .inl ⟨after, target, rfl, readTarget, rfl⟩
    next first after noArrow same =>
      cases read
      cases same
      exact .inr ⟨noArrow, rfl, rfl⟩
  · rintro ⟨source, between, readSource, arrow | ⟨noArrow, rfl, rfl⟩⟩
    · obtain ⟨after, target, rfl, readTarget, rfl⟩ := arrow
      exact ⟨_, readSource, bind_eq_ok.mpr ⟨_, readTarget, rfl⟩⟩
    · refine ⟨_, readSource, ?_⟩
      split
      next first after same =>
        cases same
        exact absurd rfl (noArrow after)
      next first after _ same =>
        cases same
        rfl

/-! ### What is read has a derivation -/

mutual

theorem derives_of_typeWithin : (fuel : Nat) → {tokens rest : List Token} → {type : Ty} →
    typeWithin fuel tokens = .ok (type, rest) →
    ∃ tree : TypeTree, tokens = tree.tokens ++ rest ∧ tree.type? = some type
  | 0, _, _, _, read => by cases read
  | fuel + 1, tokens, rest, type, read => by
    cases ahead : equalsAhead 0 tokens with
    | true =>
      -- two terms were read, whether or not looking ahead was right
      obtain ⟨left, after, right, readLeft, readRight, rfl⟩ :=
        (typeWithin_of_equalsAhead ahead).mp read
      obtain ⟨leftTree, rfl, leftDerived, -⟩ := term_eq_ok_iff.mp readLeft
      obtain ⟨rightTree, rfl, rightDerived, -⟩ := term_eq_ok_iff.mp readRight
      refine ⟨.equality leftTree rightTree, ?_, ?_⟩
      · simp [TypeTree.tokens]
      · simp [TypeTree.type?, leftDerived, rightDerived]
    | false =>
      obtain ⟨source, between, readSource, goesOn⟩ := (typeWithin_of_no_equalsAhead ahead).mp read
      obtain ⟨items, readItems, assembled⟩ := typeApplication_eq_ok.mp readSource
      have nonempty : items ≠ [] := by
        rintro rfl
        cases assembled
      obtain ⟨itemsTree, rfl, derived⟩ := derives_of_typeArgs fuel readItems nonempty
      rcases goesOn with ⟨after, target, rfl, readTarget, rfl⟩ | ⟨-, rfl, rfl⟩
      · obtain ⟨targetTree, rfl, targetDerived⟩ := derives_of_typeWithin fuel readTarget
        refine ⟨.arrow itemsTree targetTree, ?_, ?_⟩
        · simp [TypeTree.tokens]
        · simp [TypeTree.type?, derived, assembled, targetDerived]
      · exact ⟨.application itemsTree, rfl, by simp [TypeTree.type?, derived, assembled]⟩

theorem derives_of_typeArgs : (fuel : Nat) → {tokens rest : List Token} → {items : List Ty} →
    typeArgs fuel tokens = .ok (items, rest) → items ≠ [] →
    ∃ tree : TypeItemsTree, tokens = tree.tokens ++ rest ∧ tree.items? = some items
  | 0, _, _, _, read, _ => by cases read
  | fuel + 1, tokens, rest, items, read, nonempty => by
    rw [typeArgs] at read
    split at read
    · cases read
      exact absurd rfl nonempty
    · obtain ⟨⟨item, between⟩, readItem, read⟩ := bind_eq_ok.mp read
      obtain ⟨⟨others, last⟩, readOthers, returned⟩ := bind_eq_ok.mp read
      cases returned
      obtain ⟨atom, rfl, derived⟩ := derives_of_typeAtom fuel readItem
      cases others with
      | nil =>
        obtain rfl := rest_of_typeArgs readOthers
        exact ⟨.last atom, rfl, by simp [TypeItemsTree.items?, derived]⟩
      | cons other others =>
        obtain ⟨more, rfl, derived'⟩ :=
          derives_of_typeArgs fuel readOthers (List.cons_ne_nil _ _)
        refine ⟨.cons atom more, ?_, ?_⟩
        · rw [TypeItemsTree.tokens, List.append_assoc]
        · simp [TypeItemsTree.items?, derived, derived']

theorem derives_of_typeAtom : (fuel : Nat) → {tokens rest : List Token} → {type : Ty} →
    typeAtom fuel tokens = .ok (type, rest) →
    ∃ tree : TypeAtomTree, tokens = tree.tokens ++ rest ∧ tree.type? = some type
  | 0, _, _, _, read => by cases read
  | _ + 1, [], _, _, read => by cases read
  | fuel + 1, token :: tokens, rest, type, read => by
    cases token with
    | ident name =>
      obtain ⟨found, checked, returned⟩ := bind_eq_ok.mp read
      obtain ⟨rfl, legal⟩ := checkIdentifier_eq_ok.mp checked
      cases returned
      exact ⟨.name name legal, rfl, rfl⟩
    | leftParen =>
      obtain ⟨⟨inner, between⟩, readInner, read⟩ := bind_eq_ok.mp read
      obtain ⟨after, closed, returned⟩ := bind_eq_ok.mp read
      cases returned
      obtain ⟨tree, rfl, derived⟩ := derives_of_typeWithin fuel readInner
      rw [expect_eq_ok] at closed
      subst closed
      refine ⟨.parens tree, ?_, derived⟩
      simp [TypeAtomTree.tokens]
    | _ => cases read

end

/-! ### What has a derivation is read -/

theorem TypeAtomTree.tokens_begin (atom : TypeAtomTree) (rest : List Token) :
    endsApplication (atom.tokens ++ rest) = false := by
  cases atom <;> rfl

theorem TypeAtomTree.length_tokens_pos (atom : TypeAtomTree) : 0 < atom.tokens.length := by
  cases atom <;> simp [tokens]

theorem typeArgs_nil (ends : endsApplication rest = true) (enough : 0 < fuel) :
    typeArgs fuel rest = .ok ([], rest) := by
  obtain ⟨fuel, rfl⟩ := Nat.exists_eq_add_of_le' enough
  rw [typeArgs, if_pos ends]

theorem typeArgs_cons {item : Ty} {items : List Ty} {between : List Token}
    (begins : endsApplication tokens = false) (first : typeAtom fuel tokens = .ok (item, between))
    (more : typeArgs fuel between = .ok (items, rest)) :
    typeArgs (fuel + 1) tokens = .ok (item :: items, rest) := by
  rw [typeArgs, begins, first]
  exact bind_eq_ok.mpr ⟨_, rfl, bind_eq_ok.mpr ⟨_, more, rfl⟩⟩

theorem endsApplication_of_endsType (ends : endsType rest = true) :
    endsApplication rest = true := by
  cases rest with
  | nil => rfl
  | cons token rest => cases token <;> simp_all [endsType, endsApplication]

theorem endsTerm_of_endsType (ends : endsType rest = true) : endsTerm rest = true := by
  cases rest with
  | nil => rfl
  | cons token rest => cases token <;> simp_all [endsType, endsTerm]

mutual

/-- Three calls for each token, and three to begin with, suffice. -/
theorem TypeTree.typeWithin_tokens : (tree : TypeTree) → {type : Ty} → {fuel : Nat} →
    {rest : List Token} → tree.type? = some type → endsType rest = true →
    3 * tree.tokens.length + 3 ≤ fuel → typeWithin fuel (tree.tokens ++ rest) = .ok (type, rest)
  | .equality left right, type, fuel, rest, derived, ends, enough => by
    obtain ⟨fuel, rfl⟩ := Nat.exists_eq_add_of_le' (by omega : 1 ≤ fuel)
    obtain ⟨leftTerm, leftFound, returned⟩ := Option.bind_eq_some_iff.mp derived
    obtain ⟨rightTerm, rightFound, returned⟩ := Option.bind_eq_some_iff.mp returned
    cases returned
    refine (typeWithin_of_equalsAhead
      ((TypeTree.equality left right).equalsAhead_tokens ends)).mpr ?_
    refine ⟨leftTerm, right.tokens ++ rest, rightTerm, ?_, ?_, rfl⟩
    · refine term_eq_ok_iff.mpr ⟨left, ?_, leftFound, rfl⟩
      simp [TypeTree.tokens]
    · exact term_eq_ok_iff.mpr ⟨right, rfl, rightFound, endsTerm_of_endsType ends⟩
  | .application items, type, fuel, rest, derived, ends, enough => by
    rw [TypeTree.tokens] at enough
    obtain ⟨fuel, rfl⟩ := Nat.exists_eq_add_of_le' (by omega : 1 ≤ fuel)
    obtain ⟨types, found, assembled⟩ := Option.bind_eq_some_iff.mp derived
    have readItems :=
      items.typeArgs_tokens found (endsApplication_of_endsType ends) (by omega : _ ≤ fuel)
    refine (typeWithin_of_no_equalsAhead
      ((TypeTree.application items).equalsAhead_tokens ends)).mpr ?_
    refine ⟨type, rest, typeApplication_eq_ok.mpr ⟨types, readItems, assembled⟩, .inr ?_⟩
    refine ⟨?_, rfl, rfl⟩
    -- the type could not end before an arrow
    rintro after rfl
    cases ends
  | .arrow source target, type, fuel, rest, derived, ends, enough => by
    rw [TypeTree.tokens, List.length_append, List.length_cons] at enough
    obtain ⟨fuel, rfl⟩ := Nat.exists_eq_add_of_le' (by omega : 1 ≤ fuel)
    obtain ⟨sourceType, sourceFound, returned⟩ := Option.bind_eq_some_iff.mp derived
    obtain ⟨targetType, targetFound, returned⟩ := Option.bind_eq_some_iff.mp returned
    obtain ⟨types, found, assembled⟩ := Option.bind_eq_some_iff.mp sourceFound
    cases returned
    -- the arrow ends the application, and the target is read up to the end of the type
    have readItems : typeArgs fuel (source.tokens ++ .arrow :: (target.tokens ++ rest)) =
        .ok (types, .arrow :: (target.tokens ++ rest)) :=
      source.typeArgs_tokens found rfl (by omega)
    have readTarget := target.typeWithin_tokens targetFound ends (by omega : _ ≤ fuel)
    have ahead := (TypeTree.arrow source target).equalsAhead_tokens ends
    rw [TypeTree.tokens, List.append_assoc] at ahead ⊢
    refine (typeWithin_of_no_equalsAhead ahead).mpr ?_
    refine ⟨sourceType, _, typeApplication_eq_ok.mpr ⟨types, readItems, assembled⟩, .inl ?_⟩
    exact ⟨_, targetType, rfl, readTarget, rfl⟩

theorem TypeItemsTree.typeArgs_tokens : (tree : TypeItemsTree) → {items : List Ty} →
    {fuel : Nat} → {rest : List Token} → tree.items? = some items → endsApplication rest = true →
    3 * tree.tokens.length + 1 ≤ fuel → typeArgs fuel (tree.tokens ++ rest) = .ok (items, rest)
  | .last atom, items, fuel, rest, derived, ends, enough => by
    rw [TypeItemsTree.tokens] at enough ⊢
    have pos := atom.length_tokens_pos
    obtain ⟨fuel, rfl⟩ := Nat.exists_eq_add_of_le' (by omega : 1 ≤ fuel)
    obtain ⟨term, found, returned⟩ := Option.bind_eq_some_iff.mp derived
    cases returned
    exact typeArgs_cons (atom.tokens_begin rest) (atom.typeAtom_tokens found (by omega))
      (typeArgs_nil ends (by omega))
  | .cons first more, items, fuel, rest, derived, ends, enough => by
    rw [TypeItemsTree.tokens, List.length_append] at enough
    have pos := first.length_tokens_pos
    obtain ⟨fuel, rfl⟩ := Nat.exists_eq_add_of_le' (by omega : 1 ≤ fuel)
    obtain ⟨term, found, returned⟩ := Option.bind_eq_some_iff.mp derived
    obtain ⟨others, foundOthers, returned⟩ := Option.bind_eq_some_iff.mp returned
    cases returned
    rw [TypeItemsTree.tokens, List.append_assoc]
    exact typeArgs_cons (first.tokens_begin _) (first.typeAtom_tokens found (by omega))
      (more.typeArgs_tokens foundOthers ends (by omega))

theorem TypeAtomTree.typeAtom_tokens : (atom : TypeAtomTree) → {type : Ty} → {fuel : Nat} →
    {rest : List Token} → atom.type? = some type → 3 * atom.tokens.length ≤ fuel →
    typeAtom fuel (atom.tokens ++ rest) = .ok (type, rest)
  | .name name legal, type, fuel, rest, derived, enough => by
    rw [TypeAtomTree.tokens, List.length_singleton] at enough
    obtain ⟨fuel, rfl⟩ := Nat.exists_eq_add_of_le' (by omega : 1 ≤ fuel)
    cases derived
    exact bind_eq_ok.mpr ⟨name, checkIdentifier_eq_ok.mpr ⟨rfl, legal⟩, rfl⟩
  | .parens inner, type, fuel, rest, derived, enough => by
    rw [TypeAtomTree.tokens, List.length_cons, List.length_append] at enough
    obtain ⟨fuel, rfl⟩ := Nat.exists_eq_add_of_le' (by omega : 1 ≤ fuel)
    have readInner : typeWithin fuel (inner.tokens ++ .rightParen :: rest) =
        .ok (type, .rightParen :: rest) :=
      inner.typeWithin_tokens derived rfl (by simp at enough; omega)
    rw [TypeAtomTree.tokens, List.cons_append, List.append_assoc, typeAtom]
    refine bind_eq_ok.mpr ⟨_, readInner, ?_⟩
    exact bind_eq_ok.mpr ⟨rest, expect_eq_ok.mpr rfl, rfl⟩

end

/-- What a derivation derives is taken off, if the type can end there. -/
theorem TypeTree.type_tokens (tree : TypeTree) {type : Ty} (derived : tree.type? = some type)
    (ends : endsType rest = true) : Grammar.type (tree.tokens ++ rest) = .ok (type, rest) := by
  refine tree.typeWithin_tokens derived ends ?_
  rw [budget, List.length_append]
  omega

theorem complete_type_eq_ok {type : Ty} :
    complete Grammar.type tokens = .ok type ↔
      ∃ tree : TypeTree, tree.tokens = tokens ∧ tree.type? = some type := by
  rw [complete_eq_ok]
  constructor
  · intro read
    obtain ⟨tree, rfl, derived⟩ := derives_of_typeWithin _ read
    exact ⟨tree, (List.append_nil _).symm, derived⟩
  · rintro ⟨tree, rfl, derived⟩
    have read : Grammar.type (tree.tokens ++ []) = .ok (type, []) := tree.type_tokens derived rfl
    rwa [List.append_nil] at read

end ProofScript.Grammar
