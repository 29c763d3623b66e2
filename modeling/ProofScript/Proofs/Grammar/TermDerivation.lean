import ProofScript.Grammar
import ProofScript.Proofs.Outcome

/-!
# How terms are derived

A term is written as a sequence of items `a₁ … aₙ`. All items but the last are names or terms in
parentheses. The last one may also be a lambda, whose body reaches to the end of the sequence. A
single item stands for itself, and several of them for the application of the first one, which has
to be a plain name, to the others.

A derivation is kept as data (`TermTree`): the tokens that it derives can be read off, and so can
the term that they stand for. No two derivations have the same tokens.

## Main results

`TermTree.eq_of_tokens_append`: a derivation is known by its tokens, whatever follows them.

`term_eq_ok_iff`: the reading takes off exactly the sequences of tokens that have a derivation.

`Term.parse_iff_derived`: the texts of terms are those that have a derivation.
-/
namespace ProofScript

/-- A name that a parameter or a lambda may bind. -/
def IsBinder (name : String) : Prop :=
  isIdentifier name = true ∧ isTermConstant name = false

namespace Grammar

mutual

/-- The items of a term, from the first to the last. -/
inductive TermTree where
  | last (atom : AtomTree)
  | lambda (param : String) (legal : IsBinder param) (body : TermTree)
  | cons (first : AtomTree) (rest : TermTree)

/-- An item that may be followed by others: a name, or a term in parentheses. -/
inductive AtomTree where
  | name (name : String) (legal : isIdentifier name = true)
  | parens (inner : TermTree)

end

mutual

/-- The tokens that are derived. -/
def TermTree.tokens : TermTree → List Token
  | .last atom => atom.tokens
  | .lambda param _ body => .lambda :: .ident param :: .fatArrow :: body.tokens
  | .cons first rest => first.tokens ++ rest.tokens

def AtomTree.tokens : AtomTree → List Token
  | .name name _ => [.ident name]
  | .parens inner => .leftParen :: (inner.tokens ++ [.rightParen])

end

/-- What a sequence of items stands for. Only a plain name can be applied. -/
def assembleTerm : List Term → Option Term
  | [item] => some item
  | .var head :: args => some (.app head args)
  | .const head :: args => some (.app head args)
  | _ => none

mutual

/-- The terms that the items stand for. -/
def TermTree.items? : TermTree → Option (List Term)
  | .last atom => return [← atom.term?]
  | .lambda param _ body => return [.lambda param (← body.items?.bind assembleTerm)]
  | .cons first rest => return (← first.term?) :: (← rest.items?)

def AtomTree.term? : AtomTree → Option Term
  | .name name _ => some (nameTerm name)
  | .parens inner => inner.items?.bind assembleTerm

end

/-- The term that is derived. There is none if something other than a name is applied. -/
def TermTree.term? (tree : TermTree) : Option Term :=
  tree.items?.bind assembleTerm

/-! ### Derivations and their tokens -/

theorem AtomTree.tokens_begin (atom : AtomTree) (rest : List Token) :
    endsTerm (atom.tokens ++ rest) = false := by
  cases atom <;> rfl

/-- A derivation does not begin with a token that ends a term. -/
theorem TermTree.tokens_begin (tree : TermTree) (rest : List Token) :
    endsTerm (tree.tokens ++ rest) = false := by
  cases tree with
  | last atom => exact atom.tokens_begin rest
  | lambda param legal body => rfl
  | cons first more =>
    rw [tokens, List.append_assoc]
    exact first.tokens_begin _

theorem AtomTree.tokens_ne_lambda (atom : AtomTree) (rest others : List Token) :
    atom.tokens ++ rest ≠ .lambda :: others := by
  cases atom <;> simp [tokens]

mutual

/-- The items of a term end where a token ends it, so the tokens tell where each of them ends. -/
theorem TermTree.eq_of_tokens_append : (tree : TermTree) → {other : TermTree} →
    {rest rest' : List Token} → tree.tokens ++ rest = other.tokens ++ rest' →
    endsTerm rest = true → endsTerm rest' = true → tree = other ∧ rest = rest'
  | .last atom, other, rest, rest', same, ends, ends' => by
    cases other with
    | last atom' =>
      obtain ⟨rfl, rfl⟩ := atom.eq_of_tokens_append same
      exact ⟨rfl, rfl⟩
    | lambda param legal body => exact absurd same (atom.tokens_ne_lambda _ _)
    | cons first more =>
      -- the first derivation is over where the second one goes on
      rw [TermTree.tokens, TermTree.tokens, List.append_assoc] at same
      obtain ⟨-, rfl⟩ := atom.eq_of_tokens_append same
      rw [more.tokens_begin] at ends
      cases ends
  | .lambda param legal body, other, rest, rest', same, ends, ends' => by
    cases other with
    | last atom => exact absurd same.symm (atom.tokens_ne_lambda _ _)
    | lambda param' legal' body' =>
      simp only [TermTree.tokens, List.cons_append, List.cons.injEq, true_and,
        Token.ident.injEq] at same
      obtain ⟨rfl, bodies⟩ := same
      obtain ⟨rfl, rfl⟩ := body.eq_of_tokens_append bodies ends ends'
      exact ⟨rfl, rfl⟩
    | cons first more =>
      rw [TermTree.tokens, TermTree.tokens, List.append_assoc] at same
      exact absurd same.symm (first.tokens_ne_lambda _ _)
  | .cons first more, other, rest, rest', same, ends, ends' => by
    rw [TermTree.tokens, List.append_assoc] at same
    cases other with
    | last atom =>
      obtain ⟨-, rfl⟩ := first.eq_of_tokens_append same
      rw [more.tokens_begin] at ends'
      cases ends'
    | lambda param legal body => exact absurd same (first.tokens_ne_lambda _ _)
    | cons first' more' =>
      rw [TermTree.tokens, List.append_assoc] at same
      obtain ⟨rfl, others⟩ := first.eq_of_tokens_append same
      obtain ⟨rfl, rfl⟩ := more.eq_of_tokens_append others ends ends'
      exact ⟨rfl, rfl⟩

/-- An item that is no lambda ends where its name or its parentheses do. -/
theorem AtomTree.eq_of_tokens_append : (atom : AtomTree) → {other : AtomTree} →
    {rest rest' : List Token} → atom.tokens ++ rest = other.tokens ++ rest' →
    atom = other ∧ rest = rest'
  | .name name legal, other, rest, rest', same => by
    cases other with
    | name name' legal' =>
      simp only [AtomTree.tokens, List.cons_append, List.nil_append, List.cons.injEq,
        Token.ident.injEq] at same
      obtain ⟨rfl, rfl⟩ := same
      exact ⟨rfl, rfl⟩
    | parens inner => simp [AtomTree.tokens] at same
  | .parens inner, other, rest, rest', same => by
    cases other with
    | name name legal => simp [AtomTree.tokens] at same
    | parens inner' =>
      simp only [AtomTree.tokens, List.cons_append, List.append_assoc, List.nil_append,
        List.cons.injEq, true_and] at same
      obtain ⟨rfl, after⟩ := inner.eq_of_tokens_append same rfl rfl
      exact ⟨rfl, (List.cons.inj after).2⟩

end

/-! ### Reading single tokens -/

section Reading

variable {name : String} {tokens rest : List Token}

theorem expect_eq_ok {wanted : Token} :
    expect wanted tokens = .ok rest ↔ tokens = wanted :: rest := by
  cases tokens with
  | nil => simp [expect]
  | cons found more =>
    by_cases same : found = wanted
    · simp [expect, same]
    · simp [expect, same]

theorem checkIdentifier_eq_ok {found : String} :
    checkIdentifier found = .ok name ↔ found = name ∧ isIdentifier name = true := by
  unfold checkIdentifier
  split
  next legal =>
    rw [Except.ok.injEq]
    exact ⟨fun same => ⟨same, same ▸ legal⟩, fun same => same.1⟩
  next illegal =>
    simp only [reduceCtorEq, false_iff, not_and]
    rintro rfl
    exact illegal

theorem checkBinder_eq_ok {found : String} :
    checkBinder found = .ok name ↔ found = name ∧ IsBinder name := by
  unfold checkBinder IsBinder
  cases identifier : isIdentifier found <;> cases constant : isTermConstant found <;>
    simp only [Bool.not_false, Bool.not_true, Bool.false_eq_true, if_true, if_false, reduceCtorEq,
      Except.ok.injEq, false_iff, not_and] <;> grind

theorem binder_eq_ok :
    binder tokens = .ok (name, rest) ↔ tokens = .ident name :: rest ∧ IsBinder name := by
  cases tokens with
  | nil => simp [binder]
  | cons found more =>
    cases found with
    | ident found =>
      rw [binder, bind_eq_ok]
      constructor
      · rintro ⟨bound, checked, returned⟩
        obtain ⟨rfl, legal⟩ := checkBinder_eq_ok.mp checked
        cases returned
        exact ⟨rfl, legal⟩
      · rintro ⟨same, legal⟩
        cases same
        exact ⟨name, checkBinder_eq_ok.mpr ⟨rfl, legal⟩, rfl⟩
    | _ => simp [binder]

theorem complete_eq_ok {α : Type} {read : List Token → Except GrammarError (α × List Token)}
    {result : α} : complete read tokens = .ok result ↔ read tokens = .ok (result, []) := by
  rw [complete, bind_eq_ok]
  constructor
  · rintro ⟨⟨found, left⟩, ran, used⟩
    cases left with
    | nil =>
      cases used
      exact ran
    | cons token left => cases used
  · intro ran
    exact ⟨_, ran, rfl⟩

end Reading

/-! ### What is read has a derivation -/

variable {fuel : Nat} {tokens rest : List Token}

theorem applyTerm_eq_ok {head term : Term} {args : List Term} :
    applyTerm head args = .ok term ↔ assembleTerm (head :: args) = some term := by
  cases args with
  | nil => simp [applyTerm, assembleTerm]
  | cons arg args => cases head <;> simp [applyTerm, assembleTerm]

theorem termAtom_eq_error (ends : endsTerm tokens = true) (fuel : Nat) :
    ∃ failure, termAtom fuel tokens = .error failure := by
  cases fuel with
  | zero => exact ⟨_, rfl⟩
  | succ fuel =>
    cases tokens with
    | nil => exact ⟨_, rfl⟩
    | cons token tokens => cases token <;> simp_all [endsTerm, termAtom]

/-- A term is read like arguments, and then the first of them is applied to the others. -/
theorem termWithin_eq_ok {term : Term} :
    termWithin fuel tokens = .ok (term, rest) ↔
      ∃ items, termArgs fuel tokens = .ok (items, rest) ∧ assembleTerm items = some term := by
  cases fuel with
  | zero => simp [termWithin, termArgs]
  | succ fuel =>
    cases ends : endsTerm tokens with
    | true =>
      -- there is no first item
      obtain ⟨failure, failed⟩ := termAtom_eq_error ends fuel
      simp [termWithin, termArgs, ends, failed, bind, Except.bind, assembleTerm]
    | false =>
      simp only [termWithin, termArgs, ends, Bool.false_eq_true, if_false, bind_eq_ok]
      constructor
      · rintro ⟨⟨head, between⟩, first, ⟨args, after⟩, more, applied, assembled, returned⟩
        cases returned
        exact ⟨head :: args, ⟨_, first, _, more, rfl⟩, applyTerm_eq_ok.mp assembled⟩
      · rintro ⟨items, ⟨⟨head, between⟩, first, ⟨args, after⟩, more, returned⟩, assembled⟩
        cases returned
        exact ⟨_, first, _, more, term, applyTerm_eq_ok.mpr assembled, rfl⟩

/-- One item, which is an atom unless it reaches to the end of the term. -/
def DerivesItem (tokens : List Token) (item : Term) (rest : List Token) : Prop :=
  ∃ tree : TermTree, tokens = tree.tokens ++ rest ∧ tree.items? = some [item] ∧
    ((∃ atom, tree = .last atom) ∨ endsTerm rest = true)

/-- Items up to the end of the term. -/
def DerivesItems (tokens : List Token) (items : List Term) (rest : List Token) : Prop :=
  ∃ tree : TermTree, tokens = tree.tokens ++ rest ∧ tree.items? = some items ∧
    endsTerm rest = true

theorem DerivesItem.single {item : Term} (first : DerivesItem tokens item rest)
    (ends : endsTerm rest = true) : DerivesItems tokens [item] rest := by
  obtain ⟨tree, same, derived, -⟩ := first
  exact ⟨tree, same, derived, ends⟩

theorem DerivesItem.cons {item : Term} {items : List Term} {between : List Token}
    (first : DerivesItem tokens item between) (more : DerivesItems between items rest) :
    DerivesItems tokens (item :: items) rest := by
  obtain ⟨tree, rfl, derived, atomic⟩ := first
  obtain ⟨others, rfl, derived', ends⟩ := more
  -- another item follows, so the first one does not reach to the end
  rcases atomic with ⟨atom, rfl⟩ | reaches
  · refine ⟨.cons atom others, ?_, ?_, ends⟩
    · rw [TermTree.tokens, TermTree.tokens, List.append_assoc]
    · simp only [TermTree.items?, Option.pure_def, Option.bind_eq_bind, Option.bind_eq_some_iff,
        Option.some.injEq, List.cons.injEq] at derived
      obtain ⟨term, found, rfl, -⟩ := derived
      simp [TermTree.items?, found, derived']
  · rw [others.tokens_begin] at reaches
    cases reaches

theorem ends_of_termArgs (read : termArgs fuel tokens = .ok ([], rest)) :
    tokens = rest ∧ endsTerm rest = true := by
  cases fuel with
  | zero => cases read
  | succ fuel =>
    rw [termArgs] at read
    split at read
    next ends =>
      cases read
      exact ⟨rfl, ends⟩
    next =>
      obtain ⟨_, -, read⟩ := bind_eq_ok.mp read
      obtain ⟨_, -, returned⟩ := bind_eq_ok.mp read
      cases returned

mutual

theorem derivesItem_of_termAtom : (fuel : Nat) → {tokens rest : List Token} → {item : Term} →
    termAtom fuel tokens = .ok (item, rest) → DerivesItem tokens item rest
  | 0, _, _, _, read => by cases read
  | _ + 1, [], _, _, read => by cases read
  | fuel + 1, token :: tokens, rest, item, read => by
    cases token with
    | ident name =>
      obtain ⟨found, checked, returned⟩ := bind_eq_ok.mp read
      obtain ⟨rfl, legal⟩ := checkIdentifier_eq_ok.mp checked
      cases returned
      exact ⟨.last (.name name legal), rfl, rfl, .inl ⟨_, rfl⟩⟩
    | leftParen =>
      -- the items inside end where the parenthesis is closed
      obtain ⟨⟨inner, between⟩, readInner, read⟩ := bind_eq_ok.mp read
      obtain ⟨after, closed, returned⟩ := bind_eq_ok.mp read
      cases returned
      obtain ⟨items, readItems, assembled⟩ := termWithin_eq_ok.mp readInner
      obtain ⟨tree, rfl, derived, -⟩ := derivesItems_of_termArgs fuel readItems
        (fun none => by rw [none] at assembled; cases assembled)
      rw [expect_eq_ok] at closed
      subst closed
      refine ⟨.last (.parens tree), ?_, ?_, .inl ⟨_, rfl⟩⟩
      · simp [TermTree.tokens, AtomTree.tokens]
      · simp [TermTree.items?, AtomTree.term?, derived, assembled]
    | lambda =>
      -- the body was read up to the end of the term, so this item reaches there too
      obtain ⟨⟨param, between⟩, bound, read⟩ := bind_eq_ok.mp read
      obtain ⟨after, arrow, read⟩ := bind_eq_ok.mp read
      obtain ⟨⟨body, last⟩, readBody, returned⟩ := bind_eq_ok.mp read
      cases returned
      obtain ⟨items, readItems, assembled⟩ := termWithin_eq_ok.mp readBody
      obtain ⟨tree, rfl, derived, ends⟩ := derivesItems_of_termArgs fuel readItems
        (fun none => by rw [none] at assembled; cases assembled)
      obtain ⟨rfl, legal⟩ := binder_eq_ok.mp bound
      rw [expect_eq_ok] at arrow
      subst arrow
      refine ⟨.lambda param legal tree, rfl, ?_, .inr ends⟩
      simp [TermTree.items?, derived, assembled]
    | _ => cases read

theorem derivesItems_of_termArgs : (fuel : Nat) → {tokens rest : List Token} →
    {items : List Term} → termArgs fuel tokens = .ok (items, rest) → items ≠ [] →
    DerivesItems tokens items rest
  | 0, _, _, _, read, _ => by cases read
  | fuel + 1, tokens, rest, items, read, nonempty => by
    rw [termArgs] at read
    split at read
    · cases read
      exact absurd rfl nonempty
    · obtain ⟨⟨item, between⟩, readItem, read⟩ := bind_eq_ok.mp read
      obtain ⟨⟨others, last⟩, readOthers, returned⟩ := bind_eq_ok.mp read
      cases returned
      have first := derivesItem_of_termAtom fuel readItem
      cases others with
      | nil =>
        obtain ⟨rfl, ends⟩ := ends_of_termArgs readOthers
        exact first.single ends
      | cons other others =>
        exact first.cons (derivesItems_of_termArgs fuel readOthers (List.cons_ne_nil _ _))

end

/-! ### What has a derivation is read -/

theorem AtomTree.length_tokens_pos (atom : AtomTree) : 0 < atom.tokens.length := by
  cases atom <;> simp [tokens]

theorem termArgs_nil (ends : endsTerm rest = true) (enough : 0 < fuel) :
    termArgs fuel rest = .ok ([], rest) := by
  obtain ⟨fuel, rfl⟩ := Nat.exists_eq_add_of_le' enough
  rw [termArgs, if_pos ends]

theorem termArgs_cons {item : Term} {items : List Term} {between : List Token}
    (begins : endsTerm tokens = false) (first : termAtom fuel tokens = .ok (item, between))
    (more : termArgs fuel between = .ok (items, rest)) :
    termArgs (fuel + 1) tokens = .ok (item :: items, rest) := by
  rw [termArgs, begins, first]
  exact bind_eq_ok.mpr ⟨_, rfl, bind_eq_ok.mpr ⟨_, more, rfl⟩⟩

mutual

/-- Three calls for each token suffice. -/
theorem AtomTree.termAtom_tokens : (atom : AtomTree) → {term : Term} → {fuel : Nat} →
    {rest : List Token} → atom.term? = some term → 3 * atom.tokens.length ≤ fuel →
    termAtom fuel (atom.tokens ++ rest) = .ok (term, rest)
  | .name name legal, term, fuel, rest, derived, enough => by
    rw [AtomTree.tokens, List.length_singleton] at enough
    obtain ⟨fuel, rfl⟩ := Nat.exists_eq_add_of_le' (Nat.le_trans (by omega : 1 ≤ 3 * 1) enough)
    cases derived
    exact bind_eq_ok.mpr ⟨name, checkIdentifier_eq_ok.mpr ⟨rfl, legal⟩, rfl⟩
  | .parens inner, term, fuel, rest, derived, enough => by
    rw [AtomTree.tokens, List.length_cons, List.length_append] at enough
    obtain ⟨fuel, rfl⟩ := Nat.exists_eq_add_of_le' (by omega : 1 ≤ fuel)
    obtain ⟨items, found, assembled⟩ := Option.bind_eq_some_iff.mp derived
    have readItems : termArgs fuel (inner.tokens ++ .rightParen :: rest) =
        .ok (items, .rightParen :: rest) :=
      inner.termArgs_tokens found rfl (by omega)
    rw [AtomTree.tokens, List.cons_append, List.append_assoc, termAtom]
    refine bind_eq_ok.mpr ⟨_, termWithin_eq_ok.mpr ⟨items, readItems, assembled⟩, ?_⟩
    exact bind_eq_ok.mpr ⟨rest, expect_eq_ok.mpr rfl, rfl⟩

theorem TermTree.termArgs_tokens : (tree : TermTree) → {items : List Term} → {fuel : Nat} →
    {rest : List Token} → tree.items? = some items → endsTerm rest = true →
    3 * tree.tokens.length + 1 ≤ fuel → termArgs fuel (tree.tokens ++ rest) = .ok (items, rest)
  | .last atom, items, fuel, rest, derived, ends, enough => by
    rw [TermTree.tokens] at enough ⊢
    -- an atom has a token at least, which pays for looking for more items behind it
    have pos := atom.length_tokens_pos
    obtain ⟨fuel, rfl⟩ := Nat.exists_eq_add_of_le' (by omega : 1 ≤ fuel)
    obtain ⟨term, found, returned⟩ := Option.bind_eq_some_iff.mp derived
    cases returned
    exact termArgs_cons (atom.tokens_begin rest) (atom.termAtom_tokens found (by omega))
      (termArgs_nil ends (by omega))
  | .lambda param legal body, items, fuel, rest, derived, ends, enough => by
    rw [TermTree.tokens, List.length_cons, List.length_cons, List.length_cons] at enough
    obtain ⟨fuel, rfl⟩ := Nat.exists_eq_add_of_le' (by omega : 2 ≤ fuel)
    obtain ⟨term, found, returned⟩ := Option.bind_eq_some_iff.mp derived
    obtain ⟨bodyItems, foundItems, assembled⟩ := Option.bind_eq_some_iff.mp found
    cases returned
    have readItems := body.termArgs_tokens foundItems ends (by omega : _ ≤ fuel)
    -- the body takes up all that is left of the term
    have readLambda : termAtom (fuel + 1)
        (.lambda :: .ident param :: .fatArrow :: (body.tokens ++ rest)) =
          .ok (.lambda param term, rest) := by
      rw [termAtom]
      refine bind_eq_ok.mpr ⟨_, binder_eq_ok.mpr ⟨rfl, legal⟩, ?_⟩
      refine bind_eq_ok.mpr ⟨_, expect_eq_ok.mpr rfl, ?_⟩
      exact bind_eq_ok.mpr ⟨_, termWithin_eq_ok.mpr ⟨bodyItems, readItems, assembled⟩, rfl⟩
    exact termArgs_cons rfl readLambda (termArgs_nil ends (by omega))
  | .cons first more, items, fuel, rest, derived, ends, enough => by
    rw [TermTree.tokens, List.length_append] at enough
    have pos := first.length_tokens_pos
    obtain ⟨fuel, rfl⟩ := Nat.exists_eq_add_of_le' (by omega : 1 ≤ fuel)
    obtain ⟨term, found, returned⟩ := Option.bind_eq_some_iff.mp derived
    obtain ⟨others, foundOthers, returned⟩ := Option.bind_eq_some_iff.mp returned
    cases returned
    rw [TermTree.tokens, List.append_assoc]
    exact termArgs_cons (first.tokens_begin _) (first.termAtom_tokens found (by omega))
      (more.termArgs_tokens foundOthers ends (by omega))

end

/-- Reading takes a term off if and only if the tokens taken off derive it and the term cannot go on
behind them. -/
theorem term_eq_ok_iff {term : Term} :
    Grammar.term tokens = .ok (term, rest) ↔
      ∃ tree : TermTree, tokens = tree.tokens ++ rest ∧ tree.term? = some term ∧
        endsTerm rest = true := by
  rw [Grammar.term, termWithin_eq_ok]
  constructor
  · rintro ⟨items, read, assembled⟩
    have nonempty : items ≠ [] := by
      rintro rfl
      cases assembled
    obtain ⟨tree, same, derived, ends⟩ := derivesItems_of_termArgs _ read nonempty
    exact ⟨tree, same, Option.bind_eq_some_iff.mpr ⟨items, derived, assembled⟩, ends⟩
  · rintro ⟨tree, rfl, derived, ends⟩
    obtain ⟨items, found, assembled⟩ := Option.bind_eq_some_iff.mp derived
    refine ⟨items, tree.termArgs_tokens found ends ?_, assembled⟩
    rw [budget, List.length_append]
    omega

theorem complete_term_eq_ok {term : Term} :
    complete Grammar.term tokens = .ok term ↔
      ∃ tree : TermTree, tree.tokens = tokens ∧ tree.term? = some term := by
  rw [complete_eq_ok, term_eq_ok_iff]
  constructor
  · rintro ⟨tree, rfl, derived, -⟩
    exact ⟨tree, (List.append_nil _).symm, derived⟩
  · rintro ⟨tree, rfl, derived⟩
    exact ⟨tree, (List.append_nil _).symm, derived, rfl⟩

end Grammar

theorem readText_eq_ok {α : Type} {read : List Token → Except GrammarError α} {text : String}
    {tokens : List Token} (lexed : lex text = .ok tokens) {result : α} :
    readText read text = .ok result ↔ read tokens = .ok result := by
  rw [readText, lexed]
  exact mapError_eq_ok

/-- A text is read as a term if and only if its tokens derive the term, and there is only one
derivation for them. -/
theorem Term.parse_iff_derived {text : String} {tokens : List Token}
    (lexed : lex text = .ok tokens) :
    (∀ term, Term.parse text = .ok term ↔
        ∃ tree : Grammar.TermTree, tree.tokens = tokens ∧ tree.term? = some term) ∧
      ∀ tree other : Grammar.TermTree, tree.tokens = tokens → other.tokens = tokens →
        tree = other := by
  constructor
  · intro term
    rw [Term.parse, readText_eq_ok lexed]
    exact Grammar.complete_term_eq_ok
  · intro tree other first second
    have same : tree.tokens ++ [] = other.tokens ++ [] := by rw [first, second]
    exact (tree.eq_of_tokens_append same rfl rfl).1

/-- The items `map`, `(f)` and a lambda, in the body of which there is another one. -/
def Grammar.nestedLambdas : TermTree :=
  .cons (.name "map" (by decide)) <| .cons (.parens (.last (.name "f" (by decide)))) <|
    .lambda "x" ⟨by decide, by decide +kernel⟩ <| .cons (.name "g" (by decide)) <|
      .lambda "y" ⟨by decide, by decide +kernel⟩ <| .last (.name "x" (by decide))

theorem Term.parse_iff_derived_nestedLambdas :
    lex "map (f) \\x => g \\y => x" = .ok Grammar.nestedLambdas.tokens ∧
      Term.parse "map (f) \\x => g \\y => x" =
        .ok (.app "map" [.var "f", .lambda "x" (.app "g" [.lambda "y" (.var "x")])]) ∧
      ∀ other : Grammar.TermTree, other.tokens = Grammar.nestedLambdas.tokens →
        other = Grammar.nestedLambdas := by
  have lexed : lex "map (f) \\x => g \\y => x" = .ok Grammar.nestedLambdas.tokens := by
    decide +kernel
  obtain ⟨derived, unique⟩ := Term.parse_iff_derived lexed
  refine ⟨lexed, (derived _).mpr ⟨Grammar.nestedLambdas, rfl, by decide +kernel⟩, ?_⟩
  intro other same
  exact unique other _ same rfl

end ProofScript
